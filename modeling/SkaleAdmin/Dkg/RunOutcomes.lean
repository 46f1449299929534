import SkaleAdmin.Dkg.ProperAnswers
import SkaleAdmin.Dkg.TimeBudget
import SkaleAdmin.Dkg.Completion
import SkaleAdmin.Dkg.ComplaintTargets

/-! What `run_dkg` ends with when no call raises. -/

namespace SkaleAdmin.Dkg

open Interaction PyText Program
open Interaction.Procedure (runs_invoke_bind_iff runs_invoke_bind_value Follows Obeys
  obeys_attempt obeys_bind obeys_pure obeys_raise obeys_read_bind)

variable {n : Nat}

/-! ### The generation of the keys -/

section Keys

theorem fetchBlsPublicKeyOnce_sets {place : Place n} {also : DkgQuery → Prop} :
    (DKGClient.fetchBlsPublicKeyOnce : ClientM n Unit).Obeys (bystander place also)
      (bystander place also).keeps fun _ client => client.publicKey.isSome = true := by
  have tolerant := bystander_tolerant place also
  apply obeys_read_bind
  intro client _
  apply tolerant.plain_bind rfl
  intro key
  exact Procedure.obeys_modify fun _ _ => rfl

theorem obtainBlsKey_sets {place : Place n} {also : DkgQuery → Prop} :
    (obtainBlsKey : ClientM n Unit).Obeys (bystander place also)
      (bystander place also).keeps fun _ client => client.publicKey.isSome = true := by
  have tolerant := bystander_tolerant place also
  apply obeys_bind fun _ => (bystander place also).keeps
  · apply tolerant.sgxUnreachableRetry
    apply follows_read_bind
    intro client _
    apply obeys_attempt
    · apply follows_bind (tolerant.invoke (tolerant.plain _ rfl))
      intro _
      exact follows_pure _
    · intro error clause _ handled
      rw [DKGClient.absentKey_cases handled]
      exact follows_pure _
  intro generated
  split
  · exact tolerant.retryUnreachable fetchBlsPublicKeyOnce_sets (fun _ _ _ kept => kept) _
  · apply obeys_bind fun _ (client : DKGClient n) => client.publicKey.isSome = true
    · apply tolerant.retryUnreachable _ fun _ _ _ kept => kept
      apply obeys_read_bind
      intro client _
      apply tolerant.plain_bind rfl
      intro blsPrivateKey
      apply obeys_bind _ fetchBlsPublicKeyOnce_sets
      intro _
      exact obeys_pure fun _ stored => stored
    · intro _
      exact obeys_pure fun _ stored => stored

def keyKept : Frame dkgInterface (DKGClient n) :=
  Frame.confined (fun _ => True) DKGClient.publicKey

theorem getBlsPublicKeys_keyKept :
    (DKGClient.getBlsPublicKeys : ClientM n (List (List Text))).Within keyKept := by
  apply within_sgxUnreachableRetry fun _ => trivial
  apply Procedure.within_bind (Procedure.within_read _)
  intro client
  apply Procedure.within_bind (within_getOr _ _)
  intro own
  apply Procedure.within_bind
  · apply Procedure.within_modify
    intro client
    exact ⟨nofun, rfl⟩
  intro _
  apply Procedure.within_bind (Procedure.within_read _)
  intro client
  exact confined_invoke trivial

/-- The keys that `generate_bls_keys` collects before it writes them down. -/
def collectKeys : ClientM n (List (List Text) × List Text) := do
  obtainBlsKey
  let blsPublicKeys ← DKGClient.getBlsPublicKeys
  let commonPublicKey ← getCommonBlsPublicKey
  return (blsPublicKeys, commonPublicKey)

theorem collectKeys_sets {client client' : DKGClient n} {trace : Trace dkgInterface}
    {keys : List (List Text) × List Text}
    (run : Runs (collectKeys client) trace (.value keys, client')) :
    client'.publicKey.isSome = true := by
  obtain ⟨_, middle, front, back, rfl, obtained, run⟩ := Procedure.runs_bind_value run
  have sets : (obtainBlsKey : ClientM n Unit).Obeys
      (bystander client.place fun _ => False) (fun other => other.place = client.place)
      fun _ client => client.publicKey.isSome = true := obtainBlsKey_sets
  obtain ⟨_, stored⟩ := sets rfl trivial obtained
  have rest : (do
      let blsPublicKeys ← DKGClient.getBlsPublicKeys
      let commonPublicKey ← getCommonBlsPublicKey
      return (blsPublicKeys, commonPublicKey) :
      ClientM n (List (List Text) × List Text)).Within keyKept := by
    apply Procedure.within_bind getBlsPublicKeys_keyKept
    intro blsPublicKeys
    apply Procedure.within_bind
    · apply Procedure.within_bind (confined_invoke trivial)
      intro rawCommonPublicKey
      exact Procedure.within_pure _
    intro commonPublicKey
    exact Procedure.within_pure _
  have kept : client'.publicKey = middle.publicKey := (rest run).2
  rw [kept]
  exact stored

theorem generateBlsKeys_raises {client client' : DKGClient n} {trace : Trace dkgInterface}
    {error : PyError}
    (run : Runs (generateBlsKeys client) trace (.raised error, client')) :
    ∃ cause, error = .dkgKeyGenerationError cause := by
  rcases Procedure.runs_bind_raised run with
    ⟨keys, middle, front, back, rfl, collected, finished⟩ | collected
  · have stored : middle.publicKey.isSome = true := by
      rcases Procedure.runs_attempt_iff.mp collected with
        ⟨_, same, body⟩ | ⟨_, _, _, _, _, _, handled, _, clauseRun⟩ | ⟨_, same, _⟩ | ⟨same, _⟩
      · cases same
        exact collectKeys_sets body
      · cases handled
        obtain ⟨_, same, _⟩ := Procedure.runs_raise_iff.mp clauseRun
        cases same
      · cases same
      · cases same
    obtain ⟨publicKey, key⟩ := Option.isSome_iff_exists.mp stored
    simp only [DKGClient.setStep, Procedure.modify_bind_apply, Procedure.read_bind_apply, id,
      key, getOr_some, Procedure.pure_bind_apply] at finished
    obtain ⟨_, same, _⟩ := Procedure.runs_pure_iff.mp finished
    cases same
  · rcases Procedure.runs_attempt_iff.mp collected with
      ⟨_, same, _⟩ | ⟨cause, _, _, _, _, _, handled, _, clauseRun⟩ | ⟨_, _, unhandled, _⟩ |
      ⟨same, _⟩
    · cases same
    · cases handled
      obtain ⟨_, same, _⟩ := Procedure.runs_raise_iff.mp clauseRun
      cases same
      exact ⟨cause, rfl⟩
    · cases unhandled
    · cases same

theorem runDkgKeyGeneration_returns {status : Option DKGStatus} {client client' : DKGClient n}
    {trace : Trace dkgInterface}
    {outcome : Outcome PyError (Option KeysData × Option DKGStatus)}
    (run : Runs (runDkgKeyGeneration status client) trace (outcome, client')) :
    ∀ error, outcome ≠ .raised error := by
  intro error raised
  subst raised
  unfold runDkgKeyGeneration at run
  split at run
  swap
  · obtain ⟨_, same, _⟩ := Procedure.runs_pure_iff.mp run
    cases same
  rcases Procedure.runs_attempt_iff.mp run with
    ⟨_, same, _⟩ | ⟨_, clause, _, _, _, _, handled, _, clauseRun⟩ | ⟨_, same, unhandled, body⟩ |
    ⟨same, _⟩
  · cases same
  · unfold failKeyGeneration at handled
    split at handled
    · cases handled
      obtain ⟨_, same, _⟩ := Procedure.runs_pure_iff.mp clauseRun
      cases same
    · cases handled
  · cases same
    rcases Procedure.runs_bind_raised body with
      ⟨_, _, _, _, _, _, returned⟩ | generated
    · obtain ⟨_, same, _⟩ := Procedure.runs_pure_iff.mp returned
      cases same
    · obtain ⟨cause, rfl⟩ := generateBlsKeys_raises generated
      cases unhandled
  · cases same

end Keys

/-! ### The own broadcast -/

/-- SGX is asked for the shares of the node's own broadcast. -/
def DkgQuery.bringsShares : DkgQuery → Bool
  | .getSecretKeyContributionV2 .. => true
  | _ => false

theorem DkgQuery.bringsShares_of_plain {query : DkgQuery} (plain : query.isPlain = true) :
    query.bringsShares = false := by
  cases query <;> first | rfl | cases plain

/-- The node has got its own broadcast: it held it from the start, SGX was asked for it, or it
was found on the chain. -/
def DKGClient.Furnished (client : DKGClient n) (trace : Trace dkgInterface) : Prop :=
  client.Equipped ∨ Poses DkgQuery.bringsShares trace ∨
    ∃ event ∈ client.scanned trace, event.From client.group client.nodeIdDkg

section Own

variable {origin : DKGClient n} {equipped holding : Prop} {also : DkgQuery → Prop}

abbrev withoutShares (origin : DKGClient n) (equipped holding : Prop) : DkgConduct n :=
  reporting origin equipped holding fun query => query.bringsShares = false

theorem not_poses_of_follows {α : Type} {body : ClientM n α}
    (follows : body.Follows (withoutShares origin equipped holding)) {client client' : DKGClient n}
    {trace : Trace dkgInterface} {outcome : Outcome PyError α}
    (kept : (withoutShares origin equipped holding).keeps client)
    (expected : origin.Answers equipped trace)
    (run : Runs (body client) trace (outcome, client')) :
    ¬ Poses DkgQuery.bringsShares trace ∧
      (withoutShares origin equipped holding).Ends
        (fun _ => (withoutShares origin equipped holding).keeps) outcome client' := by
  obtain ⟨allowed, ends⟩ := follows kept expected run
  refine ⟨?_, ends⟩
  apply not_poses_of_forall allowed
  intro query posed
  rcases posed with plain | apart
  · exact DkgQuery.bringsShares_of_plain plain
  · exact apart

/-- The part of `broadcast` that is reached where the broadcast is possible. -/
theorem sendBroadcast_obeys (client : DKGClient n)
    (brings : ∀ polyName keys, also (.getSecretKeyContributionV2 polyName keys)) :
    (do
      let verificationVector ← DKGClient.verificationVector
      let secretKeyContribution ← DKGClient.secretKeyContribution
      invoke (.broadcast client.nodeIdContract verificationVector
        secretKeyContribution client.rotationId)
      DKGClient.setStep .BROADCAST : ClientM n Unit).Obeys (reporting origin equipped holding also)
        (reporting origin equipped holding also).keeps fun _ client => client.Equipped := by
  apply obeys_bind _ verificationVector_obeys
  intro verificationVector
  apply obeys_bind _ (secretKeyContribution_obeys brings)
  intro secretKeyContribution
  have allowed : (reporting origin equipped holding also).allowed (DkgQuery.broadcast
      client.nodeIdContract verificationVector secretKeyContribution client.rotationId) :=
    .inl rfl
  apply Procedure.obeys_invoke_bind allowed
  · intro state error _ expected
    exact absurd (proper_of_expected expected) not_proper_error
  intro _ _
  apply Procedure.obeys_modify
  intro client holds
  exact equipped_of_same holds.2 rfl rfl rfl

theorem skip_of_follows {α β : Type} {first : ClientM n β} {next : β → ClientM n α}
    (follows : first.Follows (withoutShares origin equipped holding)) {client client' : DKGClient n}
    {trace : Trace dkgInterface} {result : α}
    (kept : (withoutShares origin equipped holding).keeps client)
    (expected : origin.Answers equipped trace) (poses : Poses DkgQuery.bringsShares trace)
    (run : Runs ((first >>= next) client) trace (.value result, client')) :
    ∃ value middle rest, Runs (next value middle) rest (.value result, client') ∧
      (withoutShares origin equipped holding).keeps middle ∧ origin.Answers equipped rest ∧
      Poses DkgQuery.bringsShares rest := by
  obtain ⟨value, middle, front, rest, rfl, firstRun, nextRun⟩ := Procedure.runs_bind_value run
  obtain ⟨frontExpected, restExpected⟩ := expected.split
  obtain ⟨unasked, keptToo⟩ := not_poses_of_follows follows kept frontExpected firstRun
  exact ⟨value, middle, rest, nextRun, keptToo, restExpected,
    (poses_append.mp poses).resolve_left unasked⟩

/-- Whenever SGX is asked for the shares, the client holds its broadcast in the end. -/
theorem ensureBroadcast_furnishes {client client' : DKGClient n} {trace : Trace dkgInterface}
    (kept : (withoutShares origin equipped holding).keeps client)
    (expected : origin.Answers equipped trace) (poses : Poses DkgQuery.bringsShares trace)
    (run : Runs (ensureBroadcast client) trace (.value (), client')) : client'.Equipped := by
  have tolerant : Tolerant (withoutShares origin equipped holding) origin.place :=
    reporting_tolerant
  have asks : (DKGClient.isNodeBroadcasted : ClientM n Bool).Follows
      (withoutShares origin equipped holding) := by
    apply follows_read_bind
    intro client _
    exact tolerant.invoke (tolerant.plain _ rfl)
  obtain ⟨broadcasted, sender, _, run, kept, expected, poses⟩ :=
    skip_of_follows asks kept expected poses run
  split at run
  · exact absurd poses (not_poses_of_follows (tolerant.setStep _) kept expected run).1
  unfold DKGClient.broadcast at run
  rw [Procedure.read_bind_apply] at run
  obtain ⟨polySuccess, _, _, run, kept, expected, poses⟩ :=
    skip_of_follows (generatePolynomial_follows _) kept expected poses run
  split at run
  · obtain ⟨_, same, _⟩ := Procedure.runs_raise_iff.mp run
    cases same
  obtain ⟨possible, _, _, run, kept, expected, poses⟩ :=
    skip_of_follows (tolerant.invoke (tolerant.plain _ rfl)) kept expected poses run
  obtain ⟨opened, _, _, run, kept, expected, poses⟩ :=
    skip_of_follows tolerant.isChannelOpened kept expected poses run
  split at run
  · exact absurd poses (not_poses_of_follows (follows_pure _) kept expected run).1
  have sends := @sendBroadcast_obeys n origin equipped holding (fun _ => True) sender
    fun _ _ => trivial
  exact (sends kept expected run).2

/-! ### The phase of the broadcasts -/

theorem receiveBroadcastData_resends {fuel : Nat} {client client' : DKGClient n}
    {trace : Trace dkgInterface} {result : BroadcastResult n}
    (run : Runs (receiveBroadcastData fuel client) trace (.value result, client')) :
    Resends client client' (client.scanned trace) := by
  have polls : PollInvariant fun progress past state =>
      Polled client.place client.newFilter progress past state ∧
        Resends client state.1 (client.scanned past) := by
    constructor
    · intro progress past state event pause ⟨polled, resends⟩
      have routine := routine_of_pause pause
      have unread : client.scanned [event] = [] :=
        List.filterMap_cons_none (routine_unread routine)
      rw [scanned_append, unread, List.append_nil]
      exact ⟨polled.unread routine, resends⟩
    · intro progress progress' past trace state state' ⟨polled, resends⟩ synced
      rw [scanned_append]
      exact ⟨syncBroadcastData_polls polled synced,
        resends.append polled.keepsPlace (syncBroadcastData_resends polled.moved synced)⟩
  obtain ⟨_, _, _, _, resends⟩ := polls.receiveBroadcastData (fun startTime =>
    ⟨polled_start startTime, resends_nil client⟩) run
  exact resends

theorem receiveBroadcastData_furnishes {fuel : Nat} {client client' : DKGClient n}
    {trace : Trace dkgInterface} {result : BroadcastResult n}
    (started : client.place = origin.place) (proper : ∀ event ∈ trace, origin.Proper event)
    (run : Runs (receiveBroadcastData fuel client) trace (.value result, client'))
    {event : DKGEvent} (found : event ∈ client.scanned trace)
    (own : event.From client.group client.nodeIdDkg) : client'.Equipped := by
  have sound : ∀ event ∈ client.scanned trace, origin.Sound event := by
    intro event member
    obtain ⟨answered, inside, found⟩ := List.mem_filterMap.mp member
    rw [newFilter_of_place started] at found
    exact sound_of_eventOf (proper answered inside) found
  have place : client'.place = client.place := (receiveBroadcastData_polling fuel run).2
  have group : client'.group = client.group := congrArg Place.group place
  have node : client'.nodeIdDkg = client.nodeIdDkg := congrArg Place.nodeIdDkg place
  constructor
  · obtain ⟨index, origin, stored, member, _, _, holds⟩ :=
      receiveBroadcastData_storesAll run event found
    have same : index = client'.nodeIdDkg := by
      rw [node]
      rw [group] at origin
      exact client.group.distinct (origin.trans own.symm)
    rw [if_pos same] at holds
    obtain ⟨points, read, isStored⟩ := holds
    obtain ⟨_, vector, _, _, _, rfl⟩ := sound stored member
    obtain ⟨points', read', arePoints⟩ := exists_isPoint_of_event vector
    obtain rfl := Option.some.inj (read'.symm.trans read)
    refine ⟨points', ?_, arePoints⟩
    rw [← same]
    exact isStored
  · rcases receiveBroadcastData_resends run with ⟨_, foreign⟩ | ⟨sent, member, _, resent⟩
    · exact absurd own (foreign event found)
    · obtain ⟨_, _, sgx, _, converted, rfl⟩ := sound sent member
      refine ⟨sgx, ?_⟩
      rw [resent, convertKeyShareToStr_broadcastLayout converted]

theorem bringsShares_complaint (place : Place n) (index : Fin n) (reason : ComplaintReason) :
    (place.complaint index reason).bringsShares = false := by
  unfold Place.complaint
  split <;> rfl

theorem checkBroadcastFrom_follows
    (posts : ∀ index reason, also (origin.place.complaint index reason)) (fuel : Nat)
    (result : BroadcastResult n) (nodes : List (Fin n)) :
    (checkBroadcastFrom fuel result nodes).Follows (reporting origin equipped holding also) := by
  have tolerant : Tolerant (reporting origin equipped holding also) origin.place :=
    reporting_tolerant
  induction nodes with
  | nil => exact follows_pure _
  | cons i rest ih =>
      unfold checkBroadcastFrom
      split
      · exact tolerant.sendComplaint (.inr (posts i _))
      split
      · exact tolerant.reportBadData fun reason => .inr (posts i reason)
      · exact ih

theorem checkReceived_follows
    (posts : ∀ index reason, also (origin.place.complaint index reason)) (fuel : Nat)
    (result : BroadcastResult n) :
    (checkReceived fuel result).Follows (reporting origin equipped holding also) := by
  have tolerant : Tolerant (reporting origin equipped holding also) origin.place :=
    reporting_tolerant
  apply follows_bind (checkBroadcastFrom_follows posts fuel result _)
  intro _
  apply follows_bind (tolerant.setStep _)
  intro _
  exact follows_pure _

theorem receiveBroadcastData_follows_reporting
    (receipts : ∀ hash, also (.getTransactionReceipt hash)) (fuel : Nat) :
    (receiveBroadcastData fuel : ClientM n (BroadcastResult n)).Follows
      (reporting origin equipped holding also) := by
  have tolerant : Tolerant (reporting origin equipped holding also) origin.place :=
    reporting_tolerant
  have received := (reporting_receptive receipts).receiveBroadcastData tolerant fuel
  exact received.weaken fun _ _ holds => holds.1

def DkgQuery.readsComplaint : DkgQuery → Bool
  | .getComplaintData => true
  | _ => false

abbrev withoutReads (origin : DKGClient n) (equipped holding : Prop) : DkgConduct n :=
  reporting origin equipped holding fun query => query.readsComplaint = false

theorem DkgQuery.readsComplaint_of_plain {query : DkgQuery} (plain : query.isPlain = true) :
    query.readsComplaint = false := by
  cases query <;> first | rfl | cases plain

theorem readsComplaint_complaint (place : Place n) (index : Fin n) (reason : ComplaintReason) :
    (place.complaint index reason).readsComplaint = false := by
  unfold Place.complaint
  split <;> rfl

theorem initBlsBroadcast_follows (fuel rotationId : Nat) :
    (initBlsBroadcast fuel rotationId : ClientM n (Int × BroadcastResult n)).Follows
      (withoutReads origin equipped holding) := by
  have tolerant : Tolerant (withoutReads origin equipped holding) origin.place :=
    reporting_tolerant
  apply follows_read_bind
  intro client _
  apply tolerant.plain_bind rfl
  intro channelStartedTime
  apply tolerant.plain_bind rfl
  intro rotationMainnet
  split
  · exact tolerant.dkgError rfl
  apply follows_bind
  · apply follows_bind (ensureBroadcast_follows fun _ _ => rfl)
    intro _
    apply follows_bind (receiveBroadcastData_follows_reporting (fun _ => rfl) _)
    intro result
    exact checkReceived_follows (readsComplaint_complaint _) _ _
  intro result
  exact follows_pure _

theorem initBlsBroadcast_furnishes {fuel rotationId : Nat} {client' : DKGClient n}
    {trace : Trace dkgInterface} {collected : Int × BroadcastResult n}
    (expected : origin.Answers equipped trace) (furnished : origin.Furnished trace)
    (run : Runs (initBlsBroadcast fuel rotationId origin) trace (.value collected, client')) :
    client'.Equipped := by
  obtain ⟨time, rotation, ensure, poll, check, start, polled, rfl, phase⟩ :=
    initBlsBroadcast_parts run
  obtain ⟨ensureExpected, restExpected⟩ := expected.split.2.split
  obtain ⟨pollExpected, checkExpected⟩ := restExpected.split
  have ensures (holding : Prop) : (ensureBroadcast : ClientM n Unit).Follows
      (reporting origin equipped holding fun _ => True) :=
    ensureBroadcast_follows fun _ _ => trivial
  have receives (holding : Prop) : (receiveBroadcastData fuel).Follows
      (reporting origin equipped holding fun _ => True) :=
    receiveBroadcastData_follows_reporting (fun _ => trivial) fuel
  have checks (holding : Prop) : (checkReceived fuel collected.2).Follows
      (reporting origin equipped holding fun _ => True) :=
    checkReceived_follows (fun _ _ => trivial) fuel collected.2
  have began : (withoutShares origin equipped False).keeps origin := ⟨rfl, False.elim⟩
  obtain ⟨_, startKept⟩ := ensures False began ensureExpected phase.ensured
  obtain ⟨pollUnasked, polledKept⟩ := not_poses_of_follows
    (receiveBroadcastData_follows_reporting (fun _ => rfl) fuel) startKept pollExpected
    phase.received
  obtain ⟨checkUnasked, _⟩ := not_poses_of_follows
    (checkReceived_follows (bringsShares_complaint _) fuel collected.2) polledKept
    checkExpected phase.checked
  have stays : start.Equipped → polled.Equipped := by
    intro holds
    obtain ⟨_, kept⟩ := receives True ⟨startKept.1, fun _ => holds⟩ pollExpected phase.received
    exact kept.2 trivial
  have holds : polled.Equipped := by
    rcases furnished with holds | poses | ⟨event, found, own⟩
    · apply stays
      obtain ⟨_, kept⟩ := ensures True ⟨rfl, fun _ => holds⟩ ensureExpected phase.ensured
      exact kept.2 trivial
    · rw [poses_append, poses_append, poses_append] at poses
      rcases poses with entered | poses | poses | poses
      · obtain ⟨event, member, brings⟩ := entered
        simp only [List.mem_cons, List.not_mem_nil, or_false] at member
        rcases member with rfl | rfl <;> cases brings
      · exact stays (ensureBroadcast_furnishes began ensureExpected poses phase.ensured)
      · exact absurd poses pollUnasked
      · exact absurd poses checkUnasked
    · rw [phase.scanned] at found
      have startFilter : start.newFilter = origin.newFilter := newFilter_of_place startKept.1
      have group : start.group = origin.group := congrArg Place.group startKept.1
      have node : start.nodeIdDkg = origin.nodeIdDkg := congrArg Place.nodeIdDkg startKept.1
      apply receiveBroadcastData_furnishes startKept.1 pollExpected.1 phase.received
      · unfold DKGClient.scanned at found ⊢
        rw [startFilter]
        exact found
      · rw [group, node]
        exact own
  obtain ⟨_, kept⟩ := checks True ⟨polledKept.1, fun _ => holds⟩ checkExpected phase.checked
  exact kept.2 trivial

/-! ### The phase of the complaints -/

theorem complainFrom_follows
    (posts : ∀ index reason, also (origin.place.complaint index reason)) (fuel : Nat)
    (sent : Fin n → Bool) (nodes : List (Fin n)) :
    (complainFrom fuel sent nodes).Follows (reporting origin equipped holding also) := by
  have tolerant : Tolerant (reporting origin equipped holding also) origin.place :=
    reporting_tolerant
  induction nodes with
  | nil => exact follows_pure _
  | cons i rest ih =>
      apply follows_bind
      · apply follows_read_bind
        intro client _
        split
        · exact tolerant.sendComplaint (.inr (posts i _))
        · exact follows_pure _
      · intro _
        exact ih

abbrev complaining (origin : DKGClient n) (equipped : Prop) : DkgConduct n :=
  reporting origin equipped equipped fun _ => True

theorem initBlsCollectAlright_follows (fuel : Nat) (sent : Fin n → Bool) :
    (initBlsCollectAlright fuel sent).Follows (complaining origin equipped) := by
  have tolerant : Tolerant (complaining origin equipped) origin.place := reporting_tolerant
  have reads : (complaining origin equipped).allowed DkgQuery.getComplaintData := .inr trivial
  have starts : (complaining origin equipped).allowed DkgQuery.getAlrightStartedTime :=
    .inr trivial
  have responds : (checkResponse fuel : ClientM n Unit).Follows (complaining origin equipped) :=
    checkResponse_follows id trivial fuel
  apply follows_read_bind
  intro client _
  apply follows_bind (tolerant.checkFailedDkg _)
  intro _
  apply follows_bind responds
  intro _
  apply tolerant.invoke_bind starts
  intro startTimeAlright _
  apply follows_bind (Procedure.follows_iterate
    (tolerant.alrightRound reads (fun _ => .inr trivial) startTimeAlright) _ _)
  intro sent
  apply follows_bind
  · apply follows_bind (tolerant.checkNoComplaints reads)
    intro noComplaints
    split
    · exact complainFrom_follows (fun _ _ => trivial) _ _ _
    · exact follows_pure _
  intro _
  apply follows_bind responds
  intro _
  exact follows_pure _

theorem initBlsAwaitCompletion_follows (fuel : Nat) (channelStartedTime : Int) :
    (initBlsAwaitCompletion fuel channelStartedTime : ClientM n Unit).Follows
      (complaining origin equipped) := by
  have tolerant : Tolerant (complaining origin equipped) origin.place := reporting_tolerant
  have reads : (complaining origin equipped).allowed DkgQuery.getComplaintData := .inr trivial
  have counts : (complaining origin equipped).allowed DkgQuery.getNumberOfCompleted :=
    .inr trivial
  apply follows_read_bind
  intro client _
  apply follows_bind
  · apply tolerant.invoke_bind counts
    intro completed _
    exact follows_pure _
  intro everyone
  split
  · apply follows_bind (tolerant.checkNoComplaints reads)
    intro noComplaints
    split
    · exact tolerant.waitForFail _ _ _
    · exact follows_pure _
  · exact follows_pure _

theorem reactToComplaint_follows (fuel : Nat) (client : DKGClient n)
    (channelStartedTime : Int) (complaintedNodeIndex : Fin n) :
    (do
      waitForFail fuel client.schainName channelStartedTime
      let complaintItself := complaintedNodeIndex == client.nodeIdDkg
      if (← checkFailedDkg client.schainName) && !complaintItself then
        sendComplaint fuel complaintedNodeIndex .NO_RESPONSE
        waitForFail fuel client.schainName channelStartedTime :
      ClientM n Unit).Follows (complaining origin equipped) := by
  have tolerant : Tolerant (complaining origin equipped) origin.place := reporting_tolerant
  apply follows_bind (tolerant.waitForFail _ _ _)
  intro _
  apply follows_bind (tolerant.checkFailedDkg _)
  intro unfailed
  split
  · apply follows_bind (tolerant.sendComplaint (.inr trivial))
    intro _
    exact tolerant.waitForFail _ _ _
  · exact follows_pure _

theorem checkResponse_reads {fuel : Nat} {client client' : DKGClient n}
    {trace : Trace dkgInterface}
    (run : Runs (checkResponse fuel client) trace (.value (), client')) :
    ∃ data more, trace = ⟨.getComplaintData, .ok data⟩ :: more := by
  unfold checkResponse at run
  rw [Procedure.read_bind_apply] at run
  obtain ⟨data, more, rfl, _⟩ := runs_invoke_bind_value run
  exact ⟨data, more, rfl⟩

def AccusesStranger (client : DKGClient n) (trace : Trace dkgInterface) : Prop :=
  ∃ first second more last,
    trace = ⟨.getComplaintData, .ok first⟩ :: ⟨.getComplaintData, .ok second⟩ ::
      (more ++ [⟨.getComplaintData, .ok last⟩]) ∧
    client.group.nodeIdsContract last.2 = none

theorem initBlsResolveComplaint_raises {fuel : Nat} {channelStartedTime : Int}
    {client client' : DKGClient n} {trace : Trace dkgInterface} {error : PyError}
    (kept : (complaining origin equipped).keeps client)
    (expected : origin.Answers equipped trace)
    (run : Runs (initBlsResolveComplaint fuel channelStartedTime client) trace
      (.raised error, client')) :
    error.isDkgError = true ∨ AccusesStranger origin trace := by
  unfold initBlsResolveComplaint checkNoComplaints at run
  simp only [Procedure.read_bind_apply, Procedure.bind_assoc] at run
  obtain ⟨first, rest, rfl, compared⟩ := runs_invoke_bind_proper expected.1 run
  rw [Procedure.pure_bind_apply] at compared
  split at compared
  swap
  · obtain ⟨_, same, _⟩ := Procedure.runs_pure_iff.mp compared
    cases same
  have whole : origin.Answers equipped ([⟨.getComplaintData, .ok first⟩] ++ rest) := expected
  have expected := whole.split.2
  have responds : (checkResponse fuel : ClientM n Unit).Follows (complaining origin equipped) :=
    checkResponse_follows id trivial fuel
  rcases Procedure.runs_bind_raised compared with
    ⟨_, middle, front, back, rfl, responded, looked⟩ | responded
  · obtain ⟨frontExpected, backExpected⟩ := expected.split
    obtain ⟨_, keptToo⟩ := responds kept frontExpected responded
    obtain ⟨second, more, rfl⟩ := checkResponse_reads responded
    obtain ⟨last, rest, rfl, found⟩ := runs_invoke_bind_proper backExpected.1 looked
    have group : client.group = origin.group := congrArg Place.group kept.1
    cases index : origin.group.nodeIdsContract last.2 with
    | none =>
        simp only [id, group, index, getOr_none] at found
        obtain ⟨rfl, _, _⟩ := Procedure.runs_raise_iff.mp found
        exact .inr ⟨first, second, more, last, rfl, index⟩
    | some complaintedNodeIndex =>
        simp only [id, group, index, getOr_some, Procedure.pure_bind_apply] at found
        have whole : origin.Answers equipped ([⟨.getComplaintData, .ok last⟩] ++ rest) :=
          backExpected
        exact .inl (reactToComplaint_follows fuel client channelStartedTime
          complaintedNodeIndex keptToo whole.split.2 found).2.1
  · exact .inl (responds kept expected responded).2.1

/-! ### The looked up complaint -/

def afterCounts : Nat → Trace dkgInterface → Trace dkgInterface
  | 0, trace => trace
  | _ + 1, [] => []
  | counts + 1, event :: rest =>
      if event.query.isCount then afterCounts counts rest else afterCounts (counts + 1) rest

def complaintOf : Event dkgInterface → Option (Nat × Nat)
  | ⟨.getComplaintData, .ok data⟩ => some data
  | _ => none

/-- The complaint data by which `init_bls` looks up the accused node, after the count of the
completed nodes at its end: the last ones that are read, if they are read more than twice. -/
def lookedUp (counts : Nat) (trace : Trace dkgInterface) : Option (Nat × Nat) :=
  let reads := (afterCounts counts trace).filterMap complaintOf
  if reads.length < 3 then none else reads.getLast?

def beforeComplaints (trace : Trace dkgInterface) : Trace dkgInterface :=
  trace.takeWhile fun event => !event.query.readsComplaint

theorem afterCounts_append {front : Trace dkgInterface}
    (uncounted : ¬ Poses DkgQuery.isCount front) (counts : Nat) (back : Trace dkgInterface) :
    afterCounts (counts + 1) (front ++ back) = afterCounts (counts + 1) back := by
  induction front with
  | nil => rfl
  | cons event rest ih =>
      have plain : event.query.isCount = false := by
        cases isCount : event.query.isCount with
        | false => rfl
        | true => exact absurd ⟨event, List.mem_cons_self, isCount⟩ uncounted
      rw [List.cons_append, afterCounts, plain]
      exact ih fun ⟨other, member, isCount⟩ =>
        uncounted ⟨other, List.mem_cons_of_mem _ member, isCount⟩

theorem lookedUp_append {front : Trace dkgInterface}
    (uncounted : ¬ Poses DkgQuery.isCount front) (counts : Nat) (back : Trace dkgInterface) :
    lookedUp (counts + 1) (front ++ back) = lookedUp (counts + 1) back := by
  unfold lookedUp
  rw [afterCounts_append uncounted]

theorem AccusesStranger.lookedUp {client : DKGClient n} {trace : Trace dkgInterface}
    (stranger : AccusesStranger client trace) (answer : Except PyError Nat)
    (between : Trace dkgInterface) :
    ∃ data, lookedUp 1 (⟨.getNumberOfCompleted, answer⟩ :: (between ++ trace)) = some data ∧
      client.group.nodeIdsContract data.2 = none := by
  obtain ⟨first, second, more, last, rfl, unknown⟩ := stranger
  refine ⟨last, ?_, unknown⟩
  have reads : (afterCounts 1 (⟨.getNumberOfCompleted, answer⟩ :: (between ++
      ⟨.getComplaintData, .ok first⟩ :: ⟨.getComplaintData, .ok second⟩ ::
        (more ++ [⟨.getComplaintData, .ok last⟩])))).filterMap complaintOf =
      between.filterMap complaintOf ++ [first, second] ++ more.filterMap complaintOf ++
        [last] := by
    simp [afterCounts, DkgQuery.isCount, complaintOf]
  unfold Dkg.lookedUp
  simp only [reads]
  rw [if_neg]
  · exact List.getLast?_concat ..
  · simp only [List.length_append, List.length_cons, List.length_nil]
    omega

theorem initBlsAwaitCompletion_counted {fuel : Nat} {channelStartedTime : Int}
    {client client' : DKGClient n} {trace : Trace dkgInterface}
    (run : Runs (initBlsAwaitCompletion fuel channelStartedTime client) trace
      (.value (), client')) :
    ∃ completed rest, trace = ⟨.getNumberOfCompleted, .ok completed⟩ :: rest := by
  simp only [initBlsAwaitCompletion, DKGClient.isEveryoneSentAlgright,
    Procedure.bind_assoc, Procedure.read_bind_apply] at run
  obtain ⟨completed, rest, rfl, _⟩ := runs_invoke_bind_value run
  exact ⟨completed, rest, rfl⟩

/-- What escapes from the end of `init_bls` beside DKG errors comes from a complaint about a
stranger. -/
theorem initBlsFinish_raises {fuel : Nat} {channelStartedTime : Int} {sent : Fin n → Bool}
    {client client' : DKGClient n} {trace : Trace dkgInterface} {error : PyError}
    (kept : (complaining origin equipped).keeps client)
    (expected : origin.Answers equipped trace)
    (run : Runs (initBlsFinish fuel channelStartedTime sent client) trace
      (.raised error, client')) :
    error.isDkgError = true ∨ ∃ data, lookedUp 1 trace = some data ∧
      origin.group.nodeIdsContract data.2 = none := by
  unfold initBlsFinish at run
  rw [Procedure.read_bind_apply] at run
  have collects : (initBlsCollectAlright fuel sent).Follows (complaining origin equipped) :=
    initBlsCollectAlright_follows fuel sent
  rcases Procedure.runs_bind_raised run with
    ⟨sent, middle, collect, rest, rfl, collected, completing⟩ | collected
  · obtain ⟨collectExpected, expected⟩ := expected.split
    obtain ⟨_, kept⟩ := collects kept collectExpected collected
    have uncounted : ¬ Poses DkgQuery.isCount collect :=
      (initBlsCollectAlright_quiet _ _).not_poses (fun _ => routine_not_count) collected
    rw [lookedUp_append uncounted]
    have awaits : (initBlsAwaitCompletion fuel channelStartedTime : ClientM n Unit).Follows
        (complaining origin equipped) := initBlsAwaitCompletion_follows fuel channelStartedTime
    rcases Procedure.runs_bind_raised completing with
      ⟨_, middle, completion, rest, rfl, awaited, resolving⟩ | awaited
    · obtain ⟨completionExpected, resolveExpected⟩ := expected.split
      obtain ⟨_, kept⟩ := awaits kept completionExpected awaited
      obtain ⟨completed, between, rfl⟩ := initBlsAwaitCompletion_counted awaited
      rcases Procedure.runs_bind_raised resolving with
        ⟨_, _, _, _, _, _, ended⟩ | resolved
      · split at ended
        · obtain ⟨_, same, _⟩ := Procedure.runs_pure_iff.mp ended
          cases same
        · obtain ⟨_, same, _⟩ := Procedure.runs_raise_iff.mp ended
          cases same
          exact .inl rfl
      · rcases initBlsResolveComplaint_raises kept resolveExpected resolved with known | stranger
        · exact .inl known
        · exact .inr (stranger.lookedUp _ _)
    · exact .inl (awaits kept expected awaited).2.1
  · exact .inl (collects kept expected collected).2.1

theorem not_reads_of_follows {α : Type} {body : ClientM n α}
    (follows : body.Follows (withoutReads origin equipped holding))
    {client client' : DKGClient n} {trace : Trace dkgInterface} {outcome : Outcome PyError α}
    (kept : (withoutReads origin equipped holding).keeps client)
    (expected : origin.Answers equipped trace)
    (run : Runs (body client) trace (outcome, client')) :
    ∀ event ∈ trace, (!event.query.readsComplaint) = true := by
  intro event member
  rcases (follows kept expected run).1 event member with plain | apart
  · rw [DkgQuery.readsComplaint_of_plain plain]
    rfl
  · rw [apart]
    rfl

theorem initBlsAlright_reads {α : Type} {next : (Fin n → Bool) → ClientM n α}
    {client client' : DKGClient n} {trace : Trace dkgInterface} {outcome : Outcome PyError α}
    (run : Runs ((initBlsAlright >>= next) client) trace (outcome, client')) :
    ∃ answer more, trace = ⟨.getComplaintData, answer⟩ :: more := by
  simp only [initBlsAlright, checkNoComplaints, Procedure.bind_assoc,
    Procedure.read_bind_apply] at run
  rcases runs_invoke_bind_iff.mp run with ⟨data, more, rfl, _⟩ | ⟨error, rfl, _, _⟩
  · exact ⟨_, more, rfl⟩
  · exact ⟨_, [], rfl⟩

/-- What escapes from `init_bls` beside DKG errors once the broadcasts are awaited. -/
theorem initBlsDecide_raises {fuel : Nat} {channelStartedTime : Int}
    {client client' : DKGClient n} {trace : Trace dkgInterface} {error : PyError}
    (kept : (complaining origin equipped).keeps client)
    (expected : origin.Answers equipped trace)
    (run : Runs ((initBlsAlright >>= initBlsFinish fuel channelStartedTime) client) trace
      (.raised error, client')) :
    error.isDkgError = true ∨ ∃ data, lookedUp 1 trace = some data ∧
      origin.group.nodeIdsContract data.2 = none := by
  have tolerant : Tolerant (complaining origin equipped) origin.place := reporting_tolerant
  have decides := tolerant.initBlsAlright (.inr trivial) (.inr trivial)
  rcases Procedure.runs_bind_raised run with
    ⟨sent, middle, decision, finish, rfl, decided, finished⟩ | decided
  · obtain ⟨decisionExpected, finishExpected⟩ := expected.split
    obtain ⟨_, keptToo⟩ := decides kept decisionExpected decided
    have uncounted : ¬ Poses DkgQuery.isCount decision := by
      apply initBlsAlright_beside.not_poses _ decided
      intro query calls
      exact calls.elim routine_not_count decision_not_count
    rw [lookedUp_append uncounted]
    exact initBlsFinish_raises keptToo finishExpected finished
  · exact .inl (decides kept expected decided).2.1

theorem initBlsAwait_follows (fuel : Nat) (channelStartedTime : Int) :
    (initBlsAwait fuel channelStartedTime : ClientM n Unit).Follows
      (reporting origin equipped holding fun _ => False) :=
  Tolerant.initBlsAwait reporting_tolerant fuel channelStartedTime

theorem furnished_of_plain {client : DKGClient n} {front back : Trace dkgInterface}
    (plain : ∀ event ∈ back, event.query.isPlain = true)
    (furnished : client.Furnished (front ++ back)) : client.Furnished front := by
  rcases furnished with holds | poses | ⟨event, found, own⟩
  · exact .inl holds
  · refine .inr (.inl ((poses_append.mp poses).resolve_right ?_))
    exact not_poses_of_forall plain fun _ => DkgQuery.bringsShares_of_plain
  · refine .inr (.inr ⟨event, ?_, own⟩)
    rw [scanned_append] at found
    refine (List.mem_append.mp found).resolve_right fun inside => ?_
    obtain ⟨⟨query, answer⟩, member, isEvent⟩ := List.mem_filterMap.mp inside
    have isPlain := plain _ member
    cases query <;> first | cases isEvent | cases isPlain

theorem beforeComplaints_append {front back : Trace dkgInterface}
    (unread : ∀ event ∈ front, (!event.query.readsComplaint) = true) :
    beforeComplaints (front ++ back) = front ++ beforeComplaints back :=
  List.takeWhile_append_of_pos unread

/-- What escapes from `init_bls` beside DKG errors comes from a complaint about a stranger. -/
theorem initBls_raises {fuel rotationId : Nat} {client' : DKGClient n}
    {trace : Trace dkgInterface} {error : PyError}
    (expected : origin.Answers (origin.Furnished (beforeComplaints trace)) trace)
    (run : Runs (initBls fuel rotationId origin) trace (.raised error, client')) :
    error.isDkgError = true ∨ ∃ data, lookedUp 1 trace = some data ∧
      origin.group.nodeIdsContract data.2 = none := by
  generalize same : origin.Furnished (beforeComplaints trace) = equipped at expected
  have began : (withoutReads origin equipped False).keeps origin := ⟨rfl, False.elim⟩
  have broadcasts : (initBlsBroadcast fuel rotationId).Follows
      (withoutReads origin equipped False) := initBlsBroadcast_follows fuel rotationId
  rcases Procedure.runs_bind_raised run with
    ⟨⟨time, result⟩, first, front, rest, rfl, collected, awaiting⟩ | collected
  swap
  · exact .inl (broadcasts began expected collected).2.1
  obtain ⟨frontExpected, restExpected⟩ := expected.split
  obtain ⟨_, firstKept⟩ := broadcasts began frontExpected collected
  rcases Procedure.runs_bind_raised awaiting with
    ⟨_, second, await, rest, rfl, awaited, deciding⟩ | awaited
  swap
  · exact .inl (initBlsAwait_follows fuel time firstKept restExpected awaited).2.1
  obtain ⟨awaitExpected, restExpected⟩ := restExpected.split
  obtain ⟨awaitCalls, _⟩ := initBlsAwait_follows fuel time firstKept awaitExpected awaited
  have awaitPlain : ∀ event ∈ await, event.query.isPlain = true :=
    fun event member => (awaitCalls event member).resolve_right id
  have furnishes : equipped → first.Equipped := by
    intro holds
    obtain ⟨answer, more, rfl⟩ := initBlsAlright_reads deciding
    have frontUnread := not_reads_of_follows broadcasts began frontExpected collected
    have awaitUnread : ∀ event ∈ await, (!event.query.readsComplaint) = true := by
      intro event member
      rw [DkgQuery.readsComplaint_of_plain (awaitPlain event member)]
      rfl
    rw [← same, beforeComplaints_append frontUnread, beforeComplaints_append awaitUnread] at holds
    have furnished : origin.Furnished (front ++ (await ++ [])) := holds
    rw [List.append_nil] at furnished
    exact initBlsBroadcast_furnishes frontExpected
      (furnished_of_plain awaitPlain furnished) collected
  have kept : (complaining origin equipped).keeps first := ⟨firstKept.1, furnishes⟩
  have awaits : (initBlsAwait fuel time : ClientM n Unit).Follows
      (reporting origin equipped equipped fun _ => False) := initBlsAwait_follows fuel time
  obtain ⟨_, keptToo⟩ := awaits kept awaitExpected awaited
  have frontUncounted : ¬ Poses DkgQuery.isCount front := by
    apply (initBlsBroadcast_polling fuel rotationId).not_poses _ collected
    intro query calls
    exact calls.elim routine_not_count poll_not_count
  have awaitUncounted : ¬ Poses DkgQuery.isCount await :=
    (initBlsAwait_quiet fuel time).not_poses (fun _ => routine_not_count) awaited
  rw [lookedUp_append frontUncounted, lookedUp_append awaitUncounted]
  exact initBlsDecide_raises keptToo restExpected deciding

/-! ### The whole run -/

theorem furnished_of_unread {client : DKGClient n} {front back : Trace dkgInterface}
    (unasked : ¬ Poses DkgQuery.bringsShares front) (unscanned : client.scanned front = [])
    (furnished : client.Furnished (front ++ back)) : client.Furnished back := by
  rcases furnished with holds | poses | ⟨event, found, own⟩
  · exact .inl holds
  · exact .inr (.inl ((poses_append.mp poses).resolve_left unasked))
  · rw [scanned_append, unscanned] at found
    exact .inr (.inr ⟨event, found, own⟩)

/-- The chain speaks of nodes of the group only: the complaint that `init_bls` looks up at its
end accuses one, and a complaint that the node may respond to comes from one, at a time when
the node has got its own broadcast. -/
structure DKGClient.Steady (client : DKGClient n) (trace : Trace dkgInterface) : Prop where
  accused : ∀ data, lookedUp 2 trace = some data →
    (client.group.nodeIdsContract data.2).isSome = true
  accuser : ∀ data time nodeId, mayRespond data time nodeId <:+: trace →
    (client.group.nodeIdsContract data.1).isSome = true ∧
      client.Furnished (beforeComplaints trace)

/-- The calls of `run_dkg` before `init_bls`. -/
abbrev entry (nodes : List SchainNode) (completed : Nat) : Trace dkgInterface :=
  [⟨.getNodesForSchain, .ok nodes⟩, ⟨.getNumberOfCompleted, .ok completed⟩,
    ⟨.isChannelOpened, .ok true⟩, ⟨.isChannelOpened, .ok true⟩]

theorem answers_of_entry {nodes : List SchainNode} {completed : Nat}
    {trace : Trace dkgInterface}
    (proper : ∀ event ∈ entry nodes completed ++ trace, origin.Proper event)
    (steady : origin.Steady (entry nodes completed ++ trace)) :
    origin.Answers (origin.Furnished (beforeComplaints trace)) trace := by
  constructor
  · exact fun event member => proper event (List.mem_append_right _ member)
  · intro data time nodeId inside
    obtain ⟨accuser, furnished⟩ := steady.accuser data time nodeId
      (inside.trans (List.suffix_append (entry nodes completed) trace).isInfix)
    have unread : ∀ event ∈ entry nodes completed,
        (!event.query.readsComplaint) = true := by simp [DkgQuery.readsComplaint]
    rw [beforeComplaints_append unread] at furnished
    refine ⟨accuser, furnished_of_unread ?_ rfl furnished⟩
    simp [Poses, DkgQuery.bringsShares]

theorem refetch_follows :
    (do
      DKGClient.fetchAllBroadcastedData
      return none : ClientM n (Option DKGStatus)).Follows
      (reporting origin equipped False fun _ => True) := by
  apply follows_bind ((reporting_receptive fun _ => trivial).fetchAllBroadcastedData
    reporting_tolerant)
  intro _
  exact follows_pure _

theorem runDkgProcedure_returns {fuel rotationId : Nat} {client' : DKGClient n}
    {trace : Trace dkgInterface} {outcome : Outcome PyError (Option DKGStatus)}
    (proper : ∀ event ∈ trace, origin.Proper event) (steady : origin.Steady trace)
    (run : Runs (runDkgProcedure fuel rotationId origin) trace (outcome, client')) :
    ∀ error, outcome ≠ .raised error := by
  rintro error rfl
  rcases Procedure.runs_attempt_iff.mp run with
    ⟨_, same, _⟩ | ⟨_, clause, _, _, _, _, handled, _, clauseRun⟩ | ⟨_, same, unhandled, body⟩ |
    ⟨same, _⟩
  · cases same
  · rw [failDkg_cases handled] at clauseRun
    obtain ⟨_, same, _⟩ := Procedure.runs_pure_iff.mp clauseRun
    cases same
  swap
  · cases same
  cases same
  have unknown : error.isDkgError ≠ true := by
    intro known
    simp only [failDkg, known, if_true] at unhandled
    cases unhandled
  simp only [isLastDkgFinished, Procedure.bind_assoc] at body
  obtain ⟨nodes, rest, rfl, counting⟩ := runs_invoke_bind_proper proper body
  have properRest := (List.forall_mem_cons.mp proper).2
  obtain ⟨completed, rest, rfl, entering⟩ := runs_invoke_bind_proper properRest counting
  have properEntry := (List.forall_mem_cons.mp properRest).2
  rw [Procedure.pure_bind_apply] at entering
  split at entering
  · have answers : origin.Answers (origin.Furnished (beforeComplaints _))
        ([⟨.getNodesForSchain, .ok nodes⟩, ⟨.getNumberOfCompleted, .ok completed⟩] ++ rest) :=
      ⟨proper, steady.accuser⟩
    exact unknown (refetch_follows ⟨rfl, False.elim⟩ answers.split.2 entering).2.1
  obtain ⟨opened, rest, rfl, checking⟩ := runs_invoke_bind_proper properEntry entering
  have properCheck := (List.forall_mem_cons.mp properEntry).2
  cases opened with
  | false =>
      obtain ⟨_, same, _⟩ := Procedure.runs_pure_iff.mp checking
      cases same
  | true =>
      rw [if_pos rfl] at checking
      obtain ⟨opened, last, rfl, starting⟩ := runs_invoke_bind_proper properCheck checking
      cases opened with
      | false =>
          obtain ⟨_, same, _⟩ := Procedure.runs_pure_iff.mp starting
          cases same
      | true =>
          rw [if_pos rfl] at starting
          rcases Procedure.runs_bind_raised starting with
            ⟨_, _, _, _, _, _, returned⟩ | started
          · obtain ⟨_, same, _⟩ := Procedure.runs_pure_iff.mp returned
            cases same
          · rcases initBls_raises (answers_of_entry proper steady) started with
              known | ⟨data, reads, unknownNode⟩
            · exact unknown known
            · have accused := steady.accused data reads
              rw [unknownNode] at accused
              cases accused

end Own

theorem runDkg_returns {client client' : DKGClient n} {fuel rotationId : Nat}
    {trace : Trace dkgInterface} {outcome : Outcome PyError DKGResult}
    (proper : ∀ event ∈ trace, client.Proper event) (steady : client.Steady trace)
    (run : Runs (runDkg fuel rotationId client) trace (outcome, client')) :
    ∀ error, outcome ≠ .raised error := by
  rintro error rfl
  rcases Procedure.runs_bind_raised run with
    ⟨status, middle, front, back, rfl, procedure, generating⟩ | procedure
  · rcases Procedure.runs_bind_raised generating with
      ⟨⟨keysData, status⟩, _, _, _, rfl, _, returned⟩ | generated
    · obtain ⟨_, same, _⟩ := Procedure.runs_pure_iff.mp returned
      cases same
    · exact runDkgKeyGeneration_returns generated error rfl
  · exact runDkgProcedure_returns proper steady procedure error rfl

theorem runDkg_status {client client' : DKGClient n} {fuel rotationId : Nat}
    {trace : Trace dkgInterface} {result : DKGResult}
    (run : Runs (runDkg fuel rotationId client) trace (.value result, client')) :
    result.status = .DONE ∨ result.status = .FAILED ∨ result.status = .KEY_GENERATION_ERROR := by
  obtain ⟨status, _, _, _, _, _, generating⟩ := Procedure.runs_bind_value run
  obtain ⟨⟨keysData, status⟩, _, _, _, _, _, returned⟩ := Procedure.runs_bind_value generating
  obtain ⟨_, same, _⟩ := Procedure.runs_pure_iff.mp returned
  cases same
  change finalStatus keysData status = _ ∨ finalStatus keysData status = _ ∨
    finalStatus keysData status = _
  unfold finalStatus
  split
  · exact .inl rfl
  split
  · exact .inr (.inl rfl)
  · exact .inr (.inr rfl)

/-- Where every call is answered and the chain is steady, `run_dkg` never raises. It reports a
status as soon as the chain's clock keeps pace with its sleeps. -/
theorem runDkg_reports {client client' : DKGClient n} {fuel rotationId : Nat}
    {trace : Trace dkgInterface} {outcome : Outcome PyError DKGResult}
    (answered : ∀ event ∈ trace, client.Proper event) (steady : client.Steady trace)
    (run : Runs (runDkg fuel rotationId client) trace (outcome, client')) :
    (∀ error, outcome ≠ .raised error) ∧
      ∀ timeout now, timeout + 30 < 30 * fuel → client.dkgTimeout = timeout →
        (chainClock false timeout).Timely now trace →
        ∃ result, outcome = .value result ∧ (result.status = .DONE ∨ result.status = .FAILED ∨
          result.status = .KEY_GENERATION_ERROR) := by
  have unraised := runDkg_returns answered steady run
  refine ⟨unraised, ?_⟩
  intro timeout now enough held timely
  obtain ⟨ends, _⟩ := runDkg_sleeps enough held timely run
  cases outcome with
  | value result => exact ⟨result, rfl, runDkg_status run⟩
  | raised error => exact absurd rfl (unraised error)
  | running => exact absurd rfl ends

section Samples

def silentPeer : Trace dkgInterface := [
  ⟨.getNodesForSchain, .ok [⟨10, []⟩, ⟨11, []⟩]⟩, ⟨.getNumberOfCompleted, .ok 0⟩,
  ⟨.isChannelOpened, .ok true⟩, ⟨.isChannelOpened, .ok true⟩,
  ⟨.getChannelStartedTime, .ok 0⟩, ⟨.getRotationCounter, .ok 0⟩,
  ⟨.isNodeBroadcasted 10, .ok true⟩, ⟨.getChannelStartedTime, .ok 0⟩,
  ⟨.getLatestBlockTimestamp, .ok 100⟩, ⟨.isEveryoneBroadcasted, .ok false⟩,
  ⟨.getChannelStartedBlock, .ok 5⟩, ⟨.getLatestBlockNumber, .ok 4⟩,
  ⟨.getChannelStartedTime, .ok 0⟩, ⟨.isComplaintPossible 10 11, .ok false⟩,
  ⟨.isChannelOpened, .ok true⟩, ⟨.isEveryoneBroadcasted, .ok true⟩,
  ⟨.isChannelOpened, .ok true⟩, ⟨.getComplaintData, .ok (UINT_CONSTANT, UINT_CONSTANT)⟩,
  ⟨.isAllDataReceived 10, .ok true⟩, ⟨.isChannelOpened, .ok true⟩,
  ⟨.getComplaintData, .ok (UINT_CONSTANT, UINT_CONSTANT)⟩, ⟨.getAlrightStartedTime, .ok 0⟩,
  ⟨.isChannelOpened, .ok true⟩, ⟨.getComplaintData, .ok (10, 11)⟩,
  ⟨.getComplaintData, .ok (10, 11)⟩, ⟨.getComplaintData, .ok (10, 11)⟩,
  ⟨.getNumberOfCompleted, .ok 1⟩, ⟨.getComplaintData, .ok (10, 11)⟩,
  ⟨.getComplaintData, .ok (10, 11)⟩, ⟨.getComplaintData, .ok (10, 11)⟩]

def restarted : Trace dkgInterface :=
  silentPeer ++ [⟨.getComplaintData, .ok (UINT_CONSTANT, UINT_CONSTANT)⟩]

theorem restarted_runs :
    ∃ client, Runs (runDkg 2 0 twoNodeClient) restarted (.raised .keyError, client) := by
  refine ⟨?client, ?run⟩
  case run =>
    iterate 31 apply Runs.call
    exact Runs.done _

theorem silentPeer_proper : ∀ event ∈ silentPeer, twoNodeClient.Proper event := by
  simp [silentPeer, DKGClient.Proper]

/-- Complaint data that change under `init_bls` make it raise what `run_dkg` does not catch. -/
theorem runDkg_can_raise :
    ¬ ∀ (n fuel rotationId : Nat) (client client' : DKGClient n) (trace : Trace dkgInterface)
      (outcome : Outcome PyError DKGResult),
      (∀ event ∈ trace, client.Proper event) →
        Runs (runDkg fuel rotationId client) trace (outcome, client') →
        (∀ error, outcome ≠ .raised error) ∧
          ∀ timeout now, timeout + 30 < 30 * fuel → client.dkgTimeout = timeout →
            (chainClock false timeout).Timely now trace →
            ∃ result, outcome = .value result ∧ (result.status = .DONE ∨
              result.status = .FAILED ∨ result.status = .KEY_GENERATION_ERROR) := by
  intro claimed
  obtain ⟨client, run⟩ := restarted_runs
  have proper : ∀ event ∈ restarted, twoNodeClient.Proper event := by
    apply List.forall_mem_append.mpr ⟨silentPeer_proper, ?_⟩
    simp [DKGClient.Proper]
  exact (claimed 2 2 0 twoNodeClient client restarted _ proper run).1 .keyError rfl

def complaintStands : Trace dkgInterface := silentPeer ++ [
  ⟨.getComplaintData, .ok (10, 11)⟩, ⟨.getLatestBlockTimestamp, .ok 100⟩,
  ⟨.getDkgTimeout, .ok 10⟩, ⟨.getLatestBlockTimestamp, .ok 100⟩, ⟨.isChannelOpened, .ok true⟩,
  ⟨.getChannelStartedTime, .ok 0⟩, ⟨.sleep 30, .ok ()⟩, ⟨.getLatestBlockTimestamp, .ok 130⟩,
  ⟨.isChannelOpened, .ok true⟩, ⟨.getChannelStartedTime, .ok 0⟩,
  ⟨.isComplaintPossible 10 11, .ok false⟩, ⟨.isChannelOpened, .ok true⟩,
  ⟨.getLatestBlockTimestamp, .ok 130⟩, ⟨.getDkgTimeout, .ok 10⟩,
  ⟨.getLatestBlockTimestamp, .ok 130⟩, ⟨.isChannelOpened, .ok false⟩,
  ⟨.isLastDkgSuccessful, .ok false⟩, ⟨.getTimeOfLastSuccessfulDkg, .ok 5⟩]

theorem complaintStands_runs :
    ∃ outcome client, Runs (runDkg 2 0 twoNodeClient) complaintStands (outcome, client) := by
  refine ⟨?outcome, ?client, ?run⟩
  case run =>
    iterate 48 apply Runs.call
    exact Runs.done _

theorem complaintStands_steady : twoNodeClient.Steady complaintStands where
  accused := by
    have accuses : lookedUp 2 complaintStands = some (10, 11) := rfl
    intro data found
    cases accuses.symm.trans found
    rfl
  accuser := by
    intro data time nodeId inside
    have asked : (⟨.isPreResponsePossible nodeId, .ok true⟩ : Event dkgInterface) ∈
        complaintStands := inside.subset (by simp [mayRespond])
    simp [complaintStands, silentPeer] at asked

theorem runDkg_reports_complaintStands :
    ∃ outcome client, Runs (runDkg 2 0 twoNodeClient) complaintStands (outcome, client) ∧
      (∀ error, outcome ≠ .raised error) ∧ ∃ result, outcome = .value result ∧
        (result.status = .DONE ∨ result.status = .FAILED ∨
          result.status = .KEY_GENERATION_ERROR) := by
  obtain ⟨outcome, client, run⟩ := complaintStands_runs
  have proper : ∀ event ∈ complaintStands, twoNodeClient.Proper event := by
    apply List.forall_mem_append.mpr ⟨silentPeer_proper, ?_⟩
    simp [DKGClient.Proper]
  have timely : (chainClock false 10).Timely 100 complaintStands := by
    simp [complaintStands, silentPeer, Timing.Timely, chainClock, slept]
  obtain ⟨unraised, returns⟩ := runDkg_reports proper complaintStands_steady run
  exact ⟨outcome, client, run, unraised, returns 10 100 (by decide) rfl timely⟩

end Samples

end SkaleAdmin.Dkg
