import SkaleAdmin.Dkg.BroadcastTally

/-! When `init_bls` sends the alright transaction. -/

namespace SkaleAdmin.Dkg

open Interaction PyText Program
open Interaction.Procedure (runs_invoke_bind_iff)

variable {n : Nat}

/-- Every other node's broadcast was received and its share verified. -/
def BroadcastResult.CompleteFor (result : BroadcastResult n)
    (nodeIdDkg : Fin n) : Prop :=
  ∀ j, j ≠ nodeIdDkg → result.received j = true ∧ result.correct j = true

def DkgQuery.isAlright : DkgQuery → Bool
  | .alright _ => true
  | _ => false

abbrev SendsAlright (trace : Trace dkgInterface) : Prop :=
  Poses DkgQuery.isAlright trace

/-- The answers with which the contract lets a node send the alright. -/
def permission (client : DKGClient n) : Trace dkgInterface :=
  [⟨.getComplaintData, .ok (UINT_CONSTANT, UINT_CONSTANT)⟩,
    ⟨.isAllDataReceived client.nodeIdContract, .ok false⟩,
    ⟨.isAlrightPossible client.nodeIdContract, .ok true⟩,
    ⟨.isChannelOpened, .ok true⟩]

theorem alright_sends_iff {client client' : DKGClient n}
    {trace : Trace dkgInterface} {outcome : Outcome PyError Unit}
    (run : Runs (DKGClient.alright client) trace (outcome, client')) :
    SendsAlright trace ↔
      [⟨.isAlrightPossible client.nodeIdContract, .ok true⟩,
        ⟨.isChannelOpened, .ok true⟩] <+: trace := by
  unfold DKGClient.alright DKGClient.isChannelOpened at run
  rw [Procedure.read_bind_apply] at run
  rcases runs_invoke_bind_iff.mp run with
    ⟨possible, rest, rfl, onPossible⟩ | ⟨_, rfl, _, _⟩
  swap
  · simp [DkgQuery.isAlright]
  cases possible with
  | false =>
      obtain ⟨rfl, _, _⟩ := Procedure.runs_pure_iff.mp onPossible
      simp [DkgQuery.isAlright]
  | true =>
      rcases runs_invoke_bind_iff.mp onPossible with
        ⟨opened, rest, rfl, onOpened⟩ | ⟨_, rfl, _, _⟩
      swap
      · simp [DkgQuery.isAlright]
      cases opened with
      | false =>
          obtain ⟨rfl, _, _⟩ := Procedure.runs_pure_iff.mp onOpened
          simp [DkgQuery.isAlright]
      | true =>
          rcases runs_invoke_bind_iff.mp onOpened with
            ⟨sent, rest, rfl, _⟩ | ⟨_, rfl, _, _⟩
          · simp [DkgQuery.isAlright]
          · simp [DkgQuery.isAlright]

theorem ensureAlright_sends_iff {client client' : DKGClient n}
    {trace : Trace dkgInterface} {outcome : Outcome PyError Unit}
    (run : Runs (ensureAlright client) trace (outcome, client')) :
    SendsAlright trace ↔
      [⟨.isAllDataReceived client.nodeIdContract, .ok false⟩,
        ⟨.isAlrightPossible client.nodeIdContract, .ok true⟩,
        ⟨.isChannelOpened, .ok true⟩] <+: trace := by
  simp only [ensureAlright, DKGClient.isAllDataReceived, Procedure.bind_assoc,
    Procedure.read_bind_apply] at run
  rcases runs_invoke_bind_iff.mp run with
    ⟨received, rest, rfl, onReceived⟩ | ⟨_, rfl, _, _⟩
  swap
  · simp [DkgQuery.isAlright]
  cases received with
  | true =>
      rw [if_pos rfl] at onReceived
      obtain ⟨rfl, _, _⟩ := Procedure.runs_modify_iff.mp onReceived
      simp [DkgQuery.isAlright]
  | false =>
      rw [if_neg Bool.false_ne_true] at onReceived
      rw [List.cons_prefix_cons, ← alright_sends_iff onReceived]
      simp [DkgQuery.isAlright, DKGClient.nodeIdContract]

theorem initBlsAlright_sends_iff {client client' : DKGClient n}
    {trace : Trace dkgInterface} {outcome : Outcome PyError (Fin n → Bool)}
    (run : Runs (initBlsAlright client) trace (outcome, client')) :
    SendsAlright trace ↔ permission client <+: trace := by
  unfold initBlsAlright checkNoComplaints at run
  simp only [Procedure.bind_assoc, Procedure.read_bind_apply] at run
  rcases runs_invoke_bind_iff.mp run with
    ⟨complaint, rest, rfl, onComplaint⟩ | ⟨_, rfl, _, _⟩
  swap
  · simp [DkgQuery.isAlright, permission]
  rw [Procedure.pure_bind_apply] at onComplaint
  unfold permission
  rw [List.cons_prefix_cons]
  split at onComplaint
  · rename_i none'
    have same : complaint = (UINT_CONSTANT, UINT_CONSTANT) := by
      simpa [Prod.ext_iff] using none'
    subst same
    rcases Procedure.runs_bind_iff.mp onComplaint with
      ⟨_, _, front, back, rfl, ensured, returned⟩ |
      ⟨_, _, ensured⟩ | ⟨_, ensured⟩
    · obtain ⟨rfl, _, _⟩ := Procedure.runs_pure_iff.mp returned
      simp [DkgQuery.isAlright, ensureAlright_sends_iff ensured]
    · simp [DkgQuery.isAlright, ensureAlright_sends_iff ensured]
    · simp [DkgQuery.isAlright, ensureAlright_sends_iff ensured]
  · obtain ⟨rfl, _, _⟩ := Procedure.runs_pure_iff.mp onComplaint
    simp [DkgQuery.isAlright]

/-- The run collected the broadcasts with `result`. -/
def CollectsBroadcasts (fuel rotationId : Nat) (client : DKGClient n)
    (trace : Trace dkgInterface) (result : BroadcastResult n) : Prop :=
  ∃ front back time middle, trace = front ++ back ∧
    Runs (initBlsBroadcast fuel rotationId client) front
      (.value (time, result), middle)

theorem routine_not_decision {query : DkgQuery}
    (routine : query.isRoutine = true) : query.isDecision = false := by
  cases query <;> first | rfl | cases routine

theorem poll_not_decision {query : DkgQuery}
    (poll : query.isPoll = true) : query.isDecision = false := by
  cases query <;> first | rfl | cases poll

theorem quiet_not_decision {α : Type} {body : ClientM n α}
    (within : body.Within quiet) {client client' : DKGClient n}
    {trace : Trace dkgInterface} {outcome : Outcome PyError α}
    (run : Runs (body client) trace (outcome, client')) :
    ∀ event ∈ trace, event.query.isDecision = false :=
  fun event member => routine_not_decision ((within run).1 event member)

theorem initBlsBroadcast_not_decision {fuel rotationId : Nat}
    {client client' : DKGClient n} {trace : Trace dkgInterface}
    {outcome : Outcome PyError (Int × BroadcastResult n)}
    (run : Runs (initBlsBroadcast fuel rotationId client) trace
      (outcome, client')) : ∀ event ∈ trace, event.query.isDecision = false :=
  fun event member => ((initBlsBroadcast_polling _ _ run).1 event member).elim
    routine_not_decision poll_not_decision

theorem initBlsFinish_not_decision {fuel : Nat} {time : Int} {sent : Fin n → Bool}
    {client client' : DKGClient n} {trace : Trace dkgInterface}
    {outcome : Outcome PyError Unit}
    (run : Runs (initBlsFinish fuel time sent client) trace
      (outcome, client')) : ∀ event ∈ trace, event.query.isDecision = false := by
  intro event member
  rcases (initBlsFinish_beside _ _ _ run).1 event member with routine | count
  · exact routine_not_decision routine
  · rw [count]
    rfl

theorem undecided_not_alright {query : DkgQuery}
    (undecided : query.isDecision = false) : query.isAlright = false := by
  cases query <;> first | rfl | cases undecided

theorem not_sends_of_undecided {trace : Trace dkgInterface}
    (calls : ∀ event ∈ trace, event.query.isDecision = false) :
    ¬ SendsAlright trace :=
  not_poses_of_forall calls fun _ => undecided_not_alright

theorem permission_of_await {fuel rotationId : Nat} {time : Int}
    {result : BroadcastResult n} {client middle reached : DKGClient n}
    {front await : Trace dkgInterface} {outcome : Outcome PyError Unit}
    (collected : Runs (initBlsBroadcast fuel rotationId client) front
      (.value (time, result), middle))
    (awaited : Runs (initBlsAwait fuel time middle) await (outcome, reached)) :
    permission reached = permission client := by
  have kept : reached.place = client.place :=
    (congrArg Held.toPlace (initBlsAwait_quiet _ _ awaited).2).trans
      (initBlsBroadcast_polling _ _ collected).2
  have sameGroup : reached.group = client.group := congrArg Place.group kept
  have sameNode : reached.nodeIdDkg = client.nodeIdDkg :=
    congrArg Place.nodeIdDkg kept
  unfold permission DKGClient.nodeIdContract
  rw [sameGroup, sameNode]

/-- A run of `init_bls` ends before the decision on the alright, or comes to it
once its broadcasts are collected. -/
inductive Decides (fuel rotationId : Nat) (client : DKGClient n)
    (trace : Trace dkgInterface) : Prop
  | undecided (calls : ∀ event ∈ trace, event.query.isDecision = false)
  | decided (front await decision finish : Trace dkgInterface) (time : Int)
      (result : BroadcastResult n) (middle reached later : DKGClient n)
      (ended : Outcome PyError (Fin n → Bool))
      (split : trace = (front ++ await) ++ (decision ++ finish))
      (collected : Runs (initBlsBroadcast fuel rotationId client) front
        (.value (time, result), middle))
      (same : permission reached = permission client)
      (ran : Runs (initBlsAlright reached) decision (ended, later))
      (before : ∀ event ∈ front ++ await, event.query.isDecision = false)
      (after : ∀ event ∈ finish, event.query.isDecision = false)

theorem initBls_decides {fuel rotationId : Nat} {client client' : DKGClient n}
    {trace : Trace dkgInterface} {outcome : Outcome PyError Unit}
    (run : Runs (initBls fuel rotationId client) trace (outcome, client')) :
    Decides fuel rotationId client trace := by
  unfold initBls at run
  rcases Procedure.runs_bind_iff.mp run with
    ⟨⟨time, result⟩, middle, front, back, rfl, collected, afterCollected⟩ |
    ⟨_, _, collected⟩ | ⟨_, collected⟩
  swap
  · exact .undecided (initBlsBroadcast_not_decision collected)
  swap
  · exact .undecided (initBlsBroadcast_not_decision collected)
  have beforeFront := initBlsBroadcast_not_decision collected
  rcases Procedure.runs_bind_iff.mp afterCollected with
    ⟨_, reached, await, rest, rfl, awaited, afterAwaited⟩ |
    ⟨_, _, awaited⟩ | ⟨_, awaited⟩
  swap
  · exact .undecided (List.forall_mem_append.mpr
      ⟨beforeFront, quiet_not_decision (initBlsAwait_quiet _ _) awaited⟩)
  swap
  · exact .undecided (List.forall_mem_append.mpr
      ⟨beforeFront, quiet_not_decision (initBlsAwait_quiet _ _) awaited⟩)
  have before := List.forall_mem_append.mpr
    ⟨beforeFront, quiet_not_decision (initBlsAwait_quiet _ _) awaited⟩
  have same := permission_of_await collected awaited
  rcases Procedure.runs_bind_iff.mp afterAwaited with
    ⟨sent, later, decision, finish, rfl, decided, finished⟩ |
    ⟨_, _, decided⟩ | ⟨_, decided⟩
  · exact .decided front await decision finish time result middle reached later _
      (List.append_assoc ..).symm collected same decided before
      (initBlsFinish_not_decision finished)
  · exact .decided front await rest [] time result middle reached _ _
      (by rw [List.append_nil, List.append_assoc]) collected same decided before
      (fun _ member => absurd member List.not_mem_nil)
  · exact .decided front await rest [] time result middle reached _ _
      (by rw [List.append_nil, List.append_assoc]) collected same decided before
      (fun _ member => absurd member List.not_mem_nil)

def possible (client : DKGClient n) : Event dkgInterface :=
  ⟨.isAlrightPossible client.nodeIdContract, .ok true⟩

theorem possible_isDecision (client : DKGClient n) :
    (possible client).query.isDecision = true := rfl

theorem alright_asks {client client' : DKGClient n} {trace : Trace dkgInterface}
    {outcome : Outcome PyError Unit}
    (run : Runs (DKGClient.alright client) trace (outcome, client'))
    (asked : possible client ∈ trace) :
    ∃ answer back, trace = possible client :: ⟨.isChannelOpened, answer⟩ :: back ∧
      possible client ∉ (⟨.isChannelOpened, answer⟩ :: back : Trace dkgInterface) := by
  unfold DKGClient.alright DKGClient.isChannelOpened at run
  rw [Procedure.read_bind_apply] at run
  rcases runs_invoke_bind_iff.mp run with
    ⟨isPossible, rest, rfl, onPossible⟩ | ⟨_, rfl, _, _⟩
  swap
  · simp [possible] at asked
  cases isPossible with
  | false =>
      obtain ⟨rfl, _, _⟩ := Procedure.runs_pure_iff.mp onPossible
      simp [possible] at asked
  | true =>
      rcases runs_invoke_bind_iff.mp onPossible with
        ⟨opened, rest, rfl, onOpened⟩ | ⟨_, rfl, _, _⟩
      swap
      · exact ⟨_, [], rfl, by simp [possible]⟩
      refine ⟨_, rest, rfl, ?_⟩
      cases opened with
      | false =>
          obtain ⟨rfl, _, _⟩ := Procedure.runs_pure_iff.mp onOpened
          simp [possible]
      | true =>
          rcases runs_invoke_bind_iff.mp onOpened with
            ⟨sent, rest, rfl, stepped⟩ | ⟨_, rfl, _, _⟩
          · obtain ⟨rfl, _, _⟩ := Procedure.runs_modify_iff.mp stepped
            simp [possible]
          · simp [possible]

theorem ensureAlright_asks {client client' : DKGClient n} {trace : Trace dkgInterface}
    {outcome : Outcome PyError Unit}
    (run : Runs (ensureAlright client) trace (outcome, client'))
    (asked : possible client ∈ trace) :
    ∃ answer back, trace = ⟨.isAllDataReceived client.nodeIdContract, .ok false⟩ ::
        possible client :: ⟨.isChannelOpened, answer⟩ :: back ∧
      possible client ∉ (⟨.isChannelOpened, answer⟩ :: back : Trace dkgInterface) := by
  simp only [ensureAlright, DKGClient.isAllDataReceived, Procedure.bind_assoc,
    Procedure.read_bind_apply] at run
  rcases runs_invoke_bind_iff.mp run with
    ⟨received, rest, rfl, onReceived⟩ | ⟨_, rfl, _, _⟩
  swap
  · simp [possible] at asked
  cases received with
  | true =>
      rw [if_pos rfl] at onReceived
      obtain ⟨rfl, _, _⟩ := Procedure.runs_modify_iff.mp onReceived
      simp [possible] at asked
  | false =>
      rw [if_neg Bool.false_ne_true] at onReceived
      have later : possible client ∈ rest := by simpa [possible] using asked
      obtain ⟨answer, back, rfl, once⟩ := alright_asks onReceived later
      exact ⟨answer, back, rfl, once⟩

theorem initBlsAlright_asks {client client' : DKGClient n}
    {trace : Trace dkgInterface} {outcome : Outcome PyError (Fin n → Bool)}
    (run : Runs (initBlsAlright client) trace (outcome, client'))
    (asked : possible client ∈ trace) :
    ∃ answer back, trace = [⟨.getComplaintData, .ok (UINT_CONSTANT, UINT_CONSTANT)⟩,
        ⟨.isAllDataReceived client.nodeIdContract, .ok false⟩] ++
        possible client :: ⟨.isChannelOpened, answer⟩ :: back ∧
      possible client ∉ (⟨.isChannelOpened, answer⟩ :: back : Trace dkgInterface) := by
  unfold initBlsAlright checkNoComplaints at run
  simp only [Procedure.bind_assoc, Procedure.read_bind_apply] at run
  rcases runs_invoke_bind_iff.mp run with
    ⟨complaint, rest, rfl, onComplaint⟩ | ⟨_, rfl, _, _⟩
  swap
  · simp [possible] at asked
  rw [Procedure.pure_bind_apply] at onComplaint
  have later : possible client ∈ rest := by simpa [possible] using asked
  split at onComplaint
  swap
  · obtain ⟨rfl, _, _⟩ := Procedure.runs_pure_iff.mp onComplaint
    cases later
  rename_i none'
  have same : complaint = (UINT_CONSTANT, UINT_CONSTANT) := by
    simpa [Prod.ext_iff] using none'
  subst same
  rcases Procedure.runs_bind_iff.mp onComplaint with
    ⟨_, _, front, back, rfl, ensured, returned⟩ |
    ⟨_, _, ensured⟩ | ⟨_, ensured⟩
  · obtain ⟨rfl, _, _⟩ := Procedure.runs_pure_iff.mp returned
    rw [List.append_nil] at later ⊢
    obtain ⟨answer, back, rfl, once⟩ := ensureAlright_asks ensured later
    exact ⟨answer, back, rfl, once⟩
  · obtain ⟨answer, back, rfl, once⟩ := ensureAlright_asks ensured later
    exact ⟨answer, back, rfl, once⟩
  · obtain ⟨answer, back, rfl, once⟩ := ensureAlright_asks ensured later
    exact ⟨answer, back, rfl, once⟩

/-- Wherever the decision stands, the alright is submitted exactly when the four
answers stand in a row: the contract is asked once. -/
theorem possible_notMem {client : DKGClient n} {trace : Trace dkgInterface}
    (undecided : ∀ event ∈ trace, event.query.isDecision = false) :
    possible client ∉ trace := by
  intro member
  have decision := undecided _ member
  rw [possible_isDecision] at decision
  cases decision

theorem permission_infix_iff {client client' : DKGClient n}
    {before decision after : Trace dkgInterface} {outcome : Outcome PyError (Fin n → Bool)}
    (run : Runs (initBlsAlright client) decision (outcome, client'))
    (undecidedBefore : ∀ event ∈ before, event.query.isDecision = false)
    (undecidedAfter : ∀ event ∈ after, event.query.isDecision = false) :
    permission client <:+: before ++ (decision ++ after) ↔ SendsAlright decision := by
  have notBefore : possible client ∉ before := possible_notMem undecidedBefore
  have notAfter : possible client ∉ after := possible_notMem undecidedAfter
  rw [initBlsAlright_sends_iff run]
  constructor
  · rintro ⟨left, right, row⟩
    have asked : possible client ∈ decision := by
      have member : possible client ∈ before ++ (decision ++ after) := by
        rw [← row]
        simp [permission, possible]
      rcases List.mem_append.mp member with early | late
      · exact absurd early notBefore
      · exact (List.mem_append.mp late).resolve_right notAfter
    obtain ⟨answer, back, rfl, once⟩ := initBlsAlright_asks run asked
    have aligned : (before ++
          [⟨.getComplaintData, .ok (UINT_CONSTANT, UINT_CONSTANT)⟩,
            ⟨.isAllDataReceived client.nodeIdContract, .ok false⟩]) ++
        possible client :: (⟨.isChannelOpened, answer⟩ :: (back ++ after)) =
      (left ++ [⟨.getComplaintData, .ok (UINT_CONSTANT, UINT_CONSTANT)⟩,
          ⟨.isAllDataReceived client.nodeIdContract, .ok false⟩]) ++
        possible client :: (⟨.isChannelOpened, .ok true⟩ :: right) := by
      simpa [permission, possible] using row.symm
    have notEarlier : possible client ∉ before ++
        [⟨.getComplaintData, .ok (UINT_CONSTANT, UINT_CONSTANT)⟩,
          ⟨.isAllDataReceived client.nodeIdContract, .ok false⟩] := by
      intro member
      rcases List.mem_append.mp member with early | late
      · exact notBefore early
      · simp [possible] at late
    have notLater : possible client ∉
        (⟨.isChannelOpened, answer⟩ :: (back ++ after) : Trace dkgInterface) := by
      intro member
      rw [← List.cons_append] at member
      exact (List.mem_append.mp member).elim once notAfter
    obtain ⟨_, _, following⟩ :=
      (List.append_cons_inj_of_notMem notEarlier notLater).mp aligned
    rw [(List.cons.inj following).1]
    exact ⟨back, rfl⟩
  · rintro ⟨rest, rfl⟩
    exact ⟨before, rest ++ after, by simp⟩

theorem sends_middle_iff {before decision after : Trace dkgInterface}
    (undecidedBefore : ∀ event ∈ before, event.query.isDecision = false)
    (undecidedAfter : ∀ event ∈ after, event.query.isDecision = false) :
    SendsAlright (before ++ (decision ++ after)) ↔ SendsAlright decision := by
  unfold SendsAlright
  rw [poses_append, poses_append,
    or_iff_right (not_sends_of_undecided undecidedBefore),
    or_iff_left (not_sends_of_undecided undecidedAfter)]

theorem initBls_sends_iff {fuel rotationId : Nat} {client client' : DKGClient n}
    {trace : Trace dkgInterface} {outcome : Outcome PyError Unit}
    (run : Runs (initBls fuel rotationId client) trace (outcome, client')) :
    SendsAlright trace ↔ permission client <:+: trace := by
  cases initBls_decides run with
  | undecided calls =>
      constructor
      · intro sends
        exact absurd sends (not_sends_of_undecided calls)
      · intro row
        have undecided := calls (possible client)
          (row.subset (by simp [permission, possible]))
        rw [possible_isDecision] at undecided
        cases undecided
  | decided front await decision finish _ _ _ reached _ _ split _ same ran before after =>
      rw [split, ← same, permission_infix_iff ran before after,
        sends_middle_iff before after]

/-- The answers of the run give a broadcast of every other node, and SGX refuses
none of their shares. -/
structure DKGClient.AnswersComplete (client : DKGClient n)
    (trace : Trace dkgInterface) : Prop where
  found : ∀ j, j ≠ client.nodeIdDkg →
    ∃ event ∈ client.scanned trace, event.From client.group j
  accepted : ¬ Refused trace

theorem Received.completeFor_iff {client : DKGClient n} {trace : Trace dkgInterface}
    {result : BroadcastResult n} (received : Received client trace result) :
    result.CompleteFor client.nodeIdDkg ↔ client.AnswersComplete trace := by
  constructor
  · intro complete
    refine ⟨fun j foreign => (received.received j foreign).mp (complete j foreign).1, ?_⟩
    rw [received.refused]
    rintro ⟨index, _, incorrect⟩
    have foreign : index ≠ client.nodeIdDkg := by
      rintro rfl
      rw [received.correct] at incorrect
      cases incorrect
    rw [(complete index foreign).2] at incorrect
    cases incorrect
  · intro answers j foreign
    have isReceived := (received.received j foreign).mpr (answers.found j foreign)
    refine ⟨isReceived, ?_⟩
    cases correct : result.correct j with
    | true => rfl
    | false => exact absurd (received.refused.mpr ⟨j, isReceived, correct⟩) answers.accepted

theorem answersComplete_append {client : DKGClient n} {front back : Trace dkgInterface}
    (unread : client.scanned back = []) (spared : ¬ Refused back) :
    client.AnswersComplete (front ++ back) ↔ client.AnswersComplete front := by
  constructor
  · rintro ⟨found, accepted⟩
    rw [scanned_append, unread, List.append_nil] at found
    exact ⟨found, fun refused => accepted (refused_append.mpr (.inl refused))⟩
  · rintro ⟨found, accepted⟩
    refine ⟨?_, ?_⟩
    · rw [scanned_append, unread, List.append_nil]
      exact found
    · rw [refused_append]
      exact not_or.mpr ⟨accepted, spared⟩

theorem afterBroadcast_beside (fuel : Nat) (time : Int) :
    ((do
      initBlsAwait fuel time
      let sent ← initBlsAlright
      initBlsFinish fuel time sent : ClientM n Unit)).Within
      (beside fun query => query.isDecision = true ∨ query = .getNumberOfCompleted) := by
  apply Procedure.within_bind (within_beside_of_quiet (initBlsAwait_quiet _ _))
  intro _
  apply Procedure.within_bind
  · exact Procedure.within_confined_mono id initBlsAlright_beside
      (fun _ calls => calls.imp_right .inl) fun _ => rfl
  intro sent
  exact Procedure.within_confined_mono id (initBlsFinish_beside _ _ _)
    (fun _ calls => calls.imp_right .inr) fun _ => rfl

/-- What was received and verified is told by the answers of the whole run. -/
theorem completeFor_iff {fuel rotationId : Nat} {client client' middle : DKGClient n}
    {front back : Trace dkgInterface} {outcome : Outcome PyError Unit} {time : Int}
    {result : BroadcastResult n}
    (run : Runs (initBls fuel rotationId client) (front ++ back) (outcome, client'))
    (collected : Runs (initBlsBroadcast fuel rotationId client) front
      (.value (time, result), middle)) :
    result.CompleteFor client.nodeIdDkg ↔ client.AnswersComplete (front ++ back) := by
  have rest := Procedure.runs_of_runs_bind run collected
  have calls := (afterBroadcast_beside fuel time rest).1
  rw [(initBlsBroadcast_received collected).completeFor_iff, answersComplete_append]
  · apply beside_unread _ (afterBroadcast_beside fuel time) rest
    rintro query (decision | rfl) filter answer
    · cases query <;> first | rfl | cases decision
    · rfl
  · apply not_refused_of_forall
    intro event member
    rcases calls event member with routine | decision | count
    · exact routine_not_verification routine
    · obtain ⟨query, answer⟩ := event
      cases query <;> first | rfl | cases decision
    · rw [count]
      rfl

/-- The alright is sent only after complete broadcasts exactly when, with the
contract's permission, the answers of the run are complete. -/
theorem alright_only_after_complete_broadcasts_iff {fuel rotationId : Nat}
    {client client' : DKGClient n} {trace : Trace dkgInterface}
    {outcome : Outcome PyError Unit}
    (run : Runs (initBls fuel rotationId client) trace (outcome, client')) :
    (SendsAlright trace → ∃ result,
      CollectsBroadcasts fuel rotationId client trace result ∧
        result.CompleteFor client.nodeIdDkg) ↔
    (permission client <:+: trace → client.AnswersComplete trace) := by
  constructor
  · intro safe permitted
    obtain ⟨result, ⟨front, back, time, middle, rfl, collected⟩, complete⟩ :=
      safe ((initBls_sends_iff run).mpr permitted)
    exact (completeFor_iff run collected).mp complete
  · intro condition sends
    have answers := condition ((initBls_sends_iff run).mp sends)
    cases initBls_decides run with
    | undecided calls => exact absurd sends (not_sends_of_undecided calls)
    | decided front await decision finish time result middle _ _ _ split collected =>
        rw [List.append_assoc] at split
        subst split
        exact ⟨result, ⟨front, _, time, middle, rfl, collected⟩,
          (completeFor_iff run collected).mpr answers⟩

section TwoNodes

def twoNodeClient : DKGClient 2 :=
  { pairClient with dkgTimeout := 10 }

/-- Both broadcasts are received; SGX answers `verified` about the share of
node 1. -/
def collection (verified : Bool) : Trace dkgInterface := [
  ⟨.getChannelStartedTime, .ok 0⟩, ⟨.getRotationCounter, .ok 0⟩,
  ⟨.isNodeBroadcasted 10, .ok true⟩, ⟨.getChannelStartedTime, .ok 0⟩,
  ⟨.getLatestBlockTimestamp, .ok 1⟩, ⟨.isEveryoneBroadcasted, .ok true⟩,
  ⟨.getChannelStartedBlock, .ok 5⟩, ⟨.getLatestBlockNumber, .ok 5⟩,
  ⟨.getBlock 5, .ok ⟨[pairTx firstNode, pairTx secondNode]⟩⟩,
  ⟨.getTransactionReceipt (word 0), .ok (pairReceipt firstNode)⟩,
  ⟨.getTransactionReceipt (word 1), .ok (pairReceipt secondNode)⟩,
  ⟨.verifySecretShareV2 (.hex (pairEvent secondNode).verificationVector) "key"
    (shareText '5' '6') 0, .ok verified⟩,
  ⟨.sleep 30, .ok ()⟩]

def failedComplaint : Trace dkgInterface := [
  ⟨.getChannelStartedTime, .ok 0⟩, ⟨.isComplaintPossible 10 11, .ok true⟩,
  ⟨.isChannelOpened, .ok true⟩,
  ⟨.complaintBadData 10 11, .error (.transactionFailedError "reverted")⟩]

def alrightSent : Trace dkgInterface :=
  [⟨.isEveryoneBroadcasted, .ok true⟩, ⟨.isChannelOpened, .ok true⟩] ++
  permission twoNodeClient ++
  [⟨.alright 10, .ok ()⟩,
    ⟨.isChannelOpened, .error (.otherError "connection closed")⟩]

theorem badShare_collected :
    Procedure.returns (initBlsBroadcast 2 0) twoNodeClient
      (collection false ++ failedComplaint)
      (fun collected _ => collected.2.correct 1 == false) = true := by
  decide +kernel

theorem badShare_ends :
    Procedure.ends (initBls 2 0) twoNodeClient
      (collection false ++ failedComplaint ++ alrightSent) (fun _ _ => true) = true := by
  decide +kernel

theorem alright_can_be_sent_after_bad_share :
    ¬ ∀ (n fuel rotationId : Nat) (client client' : DKGClient n)
      (trace : Trace dkgInterface) (outcome : Outcome PyError Unit),
      Runs (initBls fuel rotationId client) trace (outcome, client') →
      SendsAlright trace →
      ∃ result, CollectsBroadcasts fuel rotationId client trace result ∧
        result.CompleteFor client.nodeIdDkg := by
  intro claimed
  obtain ⟨outcome, client', run, _⟩ := Procedure.runs_of_ends badShare_ends
  have sends : SendsAlright
      (collection false ++ failedComplaint ++ alrightSent) := by
    simp [SendsAlright, alrightSent, DkgQuery.isAlright]
  obtain ⟨result, ⟨front, back, time, middle, split, collected⟩, complete⟩ :=
    claimed 2 2 0 twoNodeClient client' _ _ run sends
  obtain ⟨⟨badTime, bad⟩, reached, badCollected, unverified⟩ :=
    Procedure.runs_of_returns badShare_collected
  obtain ⟨_, same, _⟩ := runs_unique badCollected collected split
  cases same
  have verified := (complete 1 (by decide)).2
  rw [eq_of_beq unverified] at verified
  cases verified

theorem goodShare_ends :
    Procedure.ends (initBls 2 0) twoNodeClient (collection true ++ alrightSent)
      (fun _ _ => true) = true := by
  decide +kernel

theorem goodShare_scanned :
    pairEvent 1 ∈ twoNodeClient.scanned (collection true ++ alrightSent) := by
  decide +kernel

theorem goodShare_alright_after_complete_broadcasts :
    ∃ result,
      CollectsBroadcasts 2 0 twoNodeClient (collection true ++ alrightSent)
        result ∧
      result.CompleteFor twoNodeClient.nodeIdDkg := by
  obtain ⟨outcome, client', run, _⟩ := Procedure.runs_of_ends goodShare_ends
  apply (alright_only_after_complete_broadcasts_iff run).mpr
  · intro _
    refine ⟨?_, ?_⟩
    · intro j foreign
      have other : j = 1 := by
        revert foreign
        revert j
        decide
      rw [other]
      exact ⟨pairEvent 1, goodShare_scanned, rfl⟩
    · simp [Refused, RefusesShare, collection, alrightSent, permission]
  · simp [SendsAlright, alrightSent, DkgQuery.isAlright]

end TwoNodes

end SkaleAdmin.Dkg
