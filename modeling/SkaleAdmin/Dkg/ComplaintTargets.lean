import SkaleAdmin.Dkg.Conduct
import SkaleAdmin.Dkg.NodeTables
import SkaleAdmin.Dkg.AlrightSafety

/-! Whom the complaints of `init_bls` accuse. -/

namespace SkaleAdmin.Dkg

open Interaction PyText Program
open Interaction.Procedure (Follows Triple obeys_attempt)

variable {n : Nat}

def Asked (query : DkgQuery) (trace : Trace dkgInterface) : Prop :=
  ∃ answer, (⟨query, answer⟩ : Event dkgInterface) ∈ trace

/-- `init_bls` up to the end of `receive_broadcast_data`. -/
def initBlsReceive (fuel rotationId : Nat) : ClientM n (Int × BroadcastResult n) := do
  let client ← Procedure.read id
  let channelStartedTime : Int ← invoke .getChannelStartedTime
  let rotationMainnet : Nat ← invoke .getRotationCounter
  if rotationId ≠ rotationMainnet then
    Procedure.raise (.dkgError s!"sChain {client.schainName}: restarting DKG")
  else
    ensureBroadcast
    let broadcastResult ← receiveBroadcastData fuel
    return (channelStartedTime, broadcastResult)

/-- The rest of `broadcast_and_check_data`. -/
def initBlsCheck (fuel : Nat) (received : Int × BroadcastResult n) :
    ClientM n (Int × BroadcastResult n) := do
  checkBroadcastResult fuel received.2
  DKGClient.setStep .BROADCAST_VERIFICATION
  return received

theorem bind_congr {α β : Type} {first : ClientM n β} {next next' : β → ClientM n α}
    (same : ∀ result, next result = next' result) : first >>= next = first >>= next' := by
  rw [funext same]

theorem initBlsBroadcast_eq (fuel rotationId : Nat) :
    (initBlsBroadcast fuel rotationId : ClientM n _) =
      initBlsReceive fuel rotationId >>= initBlsCheck fuel := by
  simp only [initBlsBroadcast, initBlsReceive, broadcastAndCheckData, Procedure.bind_assoc]
  apply bind_congr
  intro client
  apply bind_congr
  intro channelStartedTime
  apply bind_congr
  intro rotationMainnet
  split
  · rfl
  · simp only [Procedure.bind_assoc]
    rfl

/-- `init_bls` from the end of `receive_broadcast_data` on. -/
def initBlsAfterReceive (fuel : Nat) (received : Int × BroadcastResult n) :
    ClientM n Unit := do
  let (channelStartedTime, _) ← initBlsCheck fuel received
  initBlsAwait fuel channelStartedTime
  let sent ← initBlsAlright
  initBlsFinish fuel channelStartedTime sent

theorem initBls_eq (fuel rotationId : Nat) :
    (initBls fuel rotationId : ClientM n Unit) =
      initBlsReceive fuel rotationId >>= initBlsAfterReceive fuel := by
  unfold initBls
  rw [initBlsBroadcast_eq, Procedure.bind_assoc]
  rfl

/-- The broadcasts were received with `result`. -/
def Receives (fuel rotationId : Nat) (client : DKGClient n) (past : Trace dkgInterface)
    (result : BroadcastResult n) : Prop :=
  ∃ front back time middle, past = front ++ back ∧
    Runs (initBlsReceive fuel rotationId client) front (.value (time, result), middle)

/-- The lowest index whose broadcast is missing or wrong. -/
structure BroadcastResult.Lowest (result : BroadcastResult n) (index : Fin n) : Prop where
  incomplete : result.received index = false ∨ result.correct index = false
  lower : ∀ other < index, result.received other = true ∧ result.correct other = true

/-- What a complaint about `index` after `past` may be based on: the stages of `init_bls`
are told apart by what it has asked for. -/
inductive Grounds (fuel rotationId : Nat) (client : DKGClient n) (past : Trace dkgInterface)
    (index : Fin n) : ComplaintReason → Prop
  | noBroadcast {result : BroadcastResult n} (early : ¬ Asked .getAlrightStartedTime past)
      (receives : Receives fuel rotationId client past result) (lowest : result.Lowest index)
      (missing : result.received index = false) : Grounds fuel rotationId client past index
        .NO_BROADCAST
  | badData {result : BroadcastResult n} (early : ¬ Asked .getAlrightStartedTime past)
      (receives : Receives fuel rotationId client past result) (lowest : result.Lowest index)
      (received : result.received index = true) (wrong : result.correct index = false) :
      Grounds fuel rotationId client past index .BAD_DATA
  | noResponse (early : ¬ Asked .getAlrightStartedTime past)
      (reported : Asked (client.place.complaint index .BAD_DATA) past) :
      Grounds fuel rotationId client past index .NO_RESPONSE
  | noAlright (late : Asked .getAlrightStartedTime past)
      (uncounted : ¬ Asked .getNumberOfCompleted past)
      (unseen : (⟨.isAllDataReceived (client.group.nodeIdsDkg index), .ok true⟩ :
        Event dkgInterface) ∉ past) : Grounds fuel rotationId client past index .NO_ALRIGHT
  | standing {accuser : Nat} (counted : Asked .getNumberOfCompleted past)
      (read : (⟨.getComplaintData, .ok (accuser, client.group.nodeIdsDkg index)⟩ :
        Event dkgInterface) ∈ past) : Grounds fuel rotationId client past index .NO_RESPONSE

/-- Every complaint of the history is about another node and has its grounds. -/
def Justified (fuel rotationId : Nat) (client : DKGClient n)
    (trace : Trace dkgInterface) : Prop :=
  ∀ past query answer rest, trace = past ++ ⟨query, answer⟩ :: rest →
    query.accused ≠ none → ∃ index reason, index ≠ client.nodeIdDkg ∧
      query = client.place.complaint index reason ∧
      Grounds fuel rotationId client past index reason

/-! ### Histories that grow -/

theorem Asked.append {query : DkgQuery} {past : Trace dkgInterface} (asked : Asked query past)
    (later : Trace dkgInterface) : Asked query (past ++ later) := by
  obtain ⟨answer, member⟩ := asked
  exact ⟨answer, List.mem_append_left later member⟩

theorem asked_snoc {query : DkgQuery} {past : Trace dkgInterface} {event : Event dkgInterface}
    (apart : event.query ≠ query) : Asked query (past ++ [event]) ↔ Asked query past := by
  constructor
  · rintro ⟨answer, member⟩
    rcases List.mem_append.mp member with member | member
    · exact ⟨answer, member⟩
    · rw [List.mem_singleton] at member
      subst member
      exact absurd rfl apart
  · intro asked
    exact asked.append _

section Growing

variable {fuel rotationId : Nat} {client : DKGClient n} {past : Trace dkgInterface}

theorem Receives.append {result : BroadcastResult n}
    (receives : Receives fuel rotationId client past result) (later : Trace dkgInterface) :
    Receives fuel rotationId client (past ++ later) result := by
  obtain ⟨front, back, time, middle, rfl, run⟩ := receives
  exact ⟨front, back ++ later, time, middle, List.append_assoc .., run⟩

theorem Justified.snoc {event : Event dkgInterface}
    (justified : Justified fuel rotationId client past)
    (grounded : event.query.accused ≠ none → ∃ index reason, index ≠ client.nodeIdDkg ∧
      event.query = client.place.complaint index reason ∧
      Grounds fuel rotationId client past index reason) :
    Justified fuel rotationId client (past ++ [event]) := by
  intro before query answer rest split accuses
  rcases List.append_eq_append_iff.mp split with
    ⟨middle, rfl, last⟩ | ⟨middle, rfl, last⟩
  · cases middle with
    | nil =>
        cases last
        rw [List.append_nil]
        exact grounded accuses
    | cons head tail =>
        have absurdity := congrArg List.length last
        simp at absurdity
  · cases middle with
    | nil =>
        cases last
        rw [List.append_nil] at grounded
        exact grounded accuses
    | cons head tail =>
        cases last
        exact justified before query answer tail rfl accuses

end Growing

/-- A client in its place that poses plain calls and others of `also`. -/
def bystander (place : Place n) (also : DkgQuery → Prop) : DkgConduct n where
  expected _ := True
  allowed query := query.isPlain = true ∨ also query
  known _ := True
  keeps client := client.place = place
  parts _ := ⟨trivial, trivial⟩

theorem DkgQuery.accused_of_plain {query : DkgQuery} (plain : query.isPlain = true) :
    query.accused = none := by
  cases query <;> first | rfl | cases plain

theorem bystander_tolerant (place : Place n) (also : DkgQuery → Prop) :
    Tolerant (bystander place also) place where
  placed _ kept := kept
  plain _ plain := .inl plain
  fails _ _ _ := trivial
  dkgErrors _ _ := trivial
  unreachable _ _ _ := trivial
  steps _ _ kept := kept
  shows _ _ _ _ := .inr fun _ => trivial

/-- A run that continues a justified history in `before` keeps it justified and in `kept`,
and if it ends with a result then in `after`. -/
def Just (fuel rotationId : Nat) (client : DKGClient n) (kept : Trace dkgInterface → Prop)
    {α : Type} (before : Trace dkgInterface → Prop) (body : ClientM n α)
    (after : α → Trace dkgInterface → Prop) : Prop :=
  Triple (fun past state => state.place = client.place ∧
      (Justified fuel rotationId client past ∧ kept past) ∧ before past) body
    fun outcome past state => state.place = client.place ∧
      (Justified fuel rotationId client past ∧ kept past) ∧
      ∀ result, outcome = .value result → after result past

section Just

variable {fuel rotationId : Nat} {client : DKGClient n} {α β : Type}
  {kept before before' : Trace dkgInterface → Prop} {after after' : α → Trace dkgInterface → Prop}

theorem Just.strengthen {body : ClientM n α}
    (just : Just fuel rotationId client kept before body after)
    (stronger : ∀ past, before' past → before past) :
    Just fuel rotationId client kept before' body after :=
  Procedure.Triple.consequence just
    (fun past _ ⟨placed, justified, holds⟩ => ⟨placed, justified, stronger past holds⟩)
    fun _ _ _ ends => ends

theorem Just.weaken {body : ClientM n α}
    (just : Just fuel rotationId client kept before body after)
    (weaker : ∀ result past, after result past → after' result past) :
    Just fuel rotationId client kept before body after' :=
  Procedure.Triple.consequence just (fun _ _ holds => holds)
    fun _ past _ ⟨placed, justified, ends⟩ =>
      ⟨placed, justified, fun result same => weaker result past (ends result same)⟩

theorem just_bind {first : ClientM n β} {next : β → ClientM n α}
    (middle : β → Trace dkgInterface → Prop)
    (just : Just fuel rotationId client kept before first middle)
    (rest : ∀ result, Just fuel rotationId client kept (middle result) (next result) after) :
    Just fuel rotationId client kept before (first >>= next) after := by
  refine Procedure.triple_bind just ?_ ?_ ?_
  · intro result past state state' trace outcome ⟨placed, justified, ends⟩ run
    exact rest result ⟨placed, justified, ends result rfl⟩ run
  · intro error past state ⟨placed, justified, _⟩
    exact ⟨placed, justified, nofun⟩
  · intro past state ⟨placed, justified, _⟩
    exact ⟨placed, justified, nofun⟩

theorem just_pure {result : α} (ends : ∀ past, before past → after result past) :
    Just fuel rotationId client kept before (pure result) after := by
  apply Procedure.triple_pure
  intro past state ⟨placed, justified, holds⟩
  refine ⟨placed, justified, ?_⟩
  intro other same
  cases same
  exact ends past holds

theorem just_raise {error : PyError} :
    Just fuel rotationId client kept before (Procedure.raise error) after := by
  apply Procedure.triple_raise
  intro past state ⟨placed, justified, _⟩
  exact ⟨placed, justified, nofun⟩

theorem just_read_bind {view : DKGClient n → β} {next : β → ClientM n α}
    (rest : ∀ other, other.place = client.place →
      Just fuel rotationId client kept before (next (view other)) after) :
    Just fuel rotationId client kept before (Procedure.read view >>= next) after := by
  intro past state state' trace outcome holds run
  rw [Procedure.read_bind_apply] at run
  exact rest state holds.1 holds run

theorem just_passTransactionError {body : ClientM n Unit}
    (just : Just fuel rotationId client kept before body fun _ _ => True) :
    Just fuel rotationId client kept before (Procedure.attempt body passTransactionError)
      fun _ _ => True := by
  refine Procedure.triple_attempt just ?_ ?_ ?_ ?_
  · intro error clause handled
    cases error <;> cases handled
    apply Procedure.triple_pure
    intro past state ⟨placed, justified, _⟩
    exact ⟨placed, justified, fun _ _ => trivial⟩
  · intro result past state ⟨placed, justified, _⟩
    exact ⟨placed, justified, fun _ _ => trivial⟩
  · intro error past state _ ⟨placed, justified, _⟩
    exact ⟨placed, justified, nofun⟩
  · intro past state ⟨placed, justified, _⟩
    exact ⟨placed, justified, nofun⟩

/-- The calls of the run leave `kept` and `holds` as they are, and those that accuse have
their grounds. -/
theorem just_of_follows {also : DkgQuery → Prop} {holds : Trace dkgInterface → Prop}
    {body : ClientM n α} (follows : body.Follows (bystander client.place also))
    (stable : ∀ past event, event.query.isPlain = true ∨ also event.query →
      kept past ∧ holds past → kept (past ++ [event]) ∧ holds (past ++ [event]))
    (grounded : ∀ past query, kept past → holds past → also query → query.accused ≠ none →
      ∃ index reason, index ≠ client.nodeIdDkg ∧
        query = client.place.complaint index reason ∧
        Grounds fuel rotationId client past index reason) :
    Just fuel rotationId client kept holds body fun _ => holds := by
  intro past state state' trace outcome ⟨placed, ⟨justified, stays⟩, held⟩ run
  obtain ⟨allowed, ends⟩ := follows placed trivial run
  have placedAfter : state'.place = client.place := by
    cases outcome with
    | value result => exact ends
    | raised error => exact ends.2
    | running => exact ends
  suffices walked : Justified fuel rotationId client (past ++ trace) ∧ kept (past ++ trace) ∧
      holds (past ++ trace) from
    ⟨placedAfter, ⟨walked.1, walked.2.1⟩, fun _ _ => walked.2.2⟩
  clear ends run
  induction trace generalizing past with
  | nil =>
      rw [List.append_nil]
      exact ⟨justified, stays, held⟩
  | cons event rest ih =>
      have here := allowed event List.mem_cons_self
      have justifiedNext : Justified fuel rotationId client (past ++ [event]) := by
        apply justified.snoc
        intro accuses
        rcases here with plain | special
        · exact absurd (DkgQuery.accused_of_plain plain) accuses
        · exact grounded past event.query stays held special accuses
      obtain ⟨staysNext, heldNext⟩ := stable past event here ⟨stays, held⟩
      have walked := ih justifiedNext staysNext heldNext fun other member =>
        allowed other (List.mem_cons_of_mem _ member)
      rw [List.append_assoc] at walked
      exact walked

/-! ### Complaints about broadcasts -/

def DkgQuery.isMark : DkgQuery → Bool
  | .getAlrightStartedTime | .getNumberOfCompleted | .isAllDataReceived _ => true
  | _ => false

/-- A call that neither accuses nor marks a stage. -/
def DkgQuery.Quiet (query : DkgQuery) : Prop :=
  query.isMark = false ∧ query.accused = none

theorem DkgQuery.isMark_of_plain {query : DkgQuery} (plain : query.isPlain = true) :
    query.isMark = false := by
  cases query <;> first | rfl | cases plain

theorem isMark_complaint (place : Place n) (index : Fin n) (reason : ComplaintReason) :
    (place.complaint index reason).isMark = false := by
  unfold Place.complaint
  split
  · rfl
  · rfl

/-- The alright of node `index` has not been seen. -/
def Unseen (client : DKGClient n) (index : Fin n) (past : Trace dkgInterface) : Prop :=
  (⟨.isAllDataReceived (client.group.nodeIdsDkg index), .ok true⟩ :
    Event dkgInterface) ∉ past

/-- The history before `init_bls` looks at the alrights of the others. -/
structure Early (client : DKGClient n) (past : Trace dkgInterface) : Prop where
  unstarted : ¬ Asked .getAlrightStartedTime past
  uncounted : ¬ Asked .getNumberOfCompleted past
  unseen : ∀ index, index ≠ client.nodeIdDkg → Unseen client index past

theorem unseen_snoc {index : Fin n} {past : Trace dkgInterface} {event : Event dkgInterface}
    (unseen : Unseen client index past)
    (apart : event ≠ ⟨.isAllDataReceived (client.group.nodeIdsDkg index), .ok true⟩) :
    Unseen client index (past ++ [event]) := by
  intro member
  rcases List.mem_append.mp member with member | member
  · exact unseen member
  · exact apart (List.mem_singleton.mp member).symm

theorem Early.snoc {past : Trace dkgInterface} {event : Event dkgInterface}
    (early : Early client past)
    (unmarked : event.query.isMark = false ∨
      event.query = .isAllDataReceived client.nodeIdContract) :
    Early client (past ++ [event]) := by
  have apart : ∀ {query : DkgQuery}, query = .getAlrightStartedTime ∨
      query = .getNumberOfCompleted → event.query ≠ query := by
    rintro query known same
    rcases unmarked with unmarked | unmarked <;> rw [same] at unmarked <;>
      rcases known with rfl | rfl <;> cases unmarked
  refine ⟨?_, ?_, ?_⟩
  · rw [asked_snoc (apart (.inl rfl))]
    exact early.unstarted
  · rw [asked_snoc (apart (.inr rfl))]
    exact early.uncounted
  · intro index foreign
    apply unseen_snoc (early.unseen index foreign)
    rintro rfl
    rcases unmarked with unmarked | own
    · cases unmarked
    · apply foreign
      apply client.group.distinct
      exact DkgQuery.isAllDataReceived.inj own

/-- The history while `check_broadcast_result` goes through `result`. -/
def Checking (fuel rotationId : Nat) (client : DKGClient n) (result : BroadcastResult n)
    (past : Trace dkgInterface) : Prop :=
  Early client past ∧ Receives fuel rotationId client past result

variable {result : BroadcastResult n}

theorem Checking.snoc {past : Trace dkgInterface} {event : Event dkgInterface}
    (checking : Checking fuel rotationId client result past)
    (unmarked : event.query.isMark = false) :
    Checking fuel rotationId client result (past ++ [event]) :=
  ⟨checking.1.snoc (.inl unmarked), checking.2.append _⟩

theorem lowest_ne_own {index : Fin n} (lowest : result.Lowest index)
    (own : result.OwnSet client.nodeIdDkg) : index ≠ client.nodeIdDkg := by
  rintro rfl
  rcases lowest.incomplete with missing | wrong
  · rw [own.1] at missing
    cases missing
  · rw [own.2] at wrong
    cases wrong

theorem just_complaint {index : Fin n} {reason : ComplaintReason}
    {holds : Trace dkgInterface → Prop} {body : ClientM n α}
    (follows : body.Follows
      (bystander client.place fun query => query = client.place.complaint index reason))
    (stable : ∀ past event, event.query.isMark = false → kept past ∧ holds past →
      kept (past ++ [event]) ∧ holds (past ++ [event]))
    (foreign : index ≠ client.nodeIdDkg)
    (grounded : ∀ past, kept past → holds past →
      Grounds fuel rotationId client past index reason) :
    Just fuel rotationId client kept holds body fun _ => holds := by
  apply just_of_follows follows
  · intro past event called
    apply stable past event
    rcases called with plain | same
    · exact DkgQuery.isMark_of_plain plain
    · rw [same]
      exact isMark_complaint _ _ _
  · rintro past query stays held rfl _
    exact ⟨index, reason, foreign, rfl, grounded past stays held⟩

theorem just_quiet {holds : Trace dkgInterface → Prop} {body : ClientM n α}
    (follows : body.Follows (bystander client.place DkgQuery.Quiet))
    (stable : ∀ past event, event.query.isMark = false → kept past ∧ holds past →
      kept (past ++ [event]) ∧ holds (past ++ [event])) :
    Just fuel rotationId client kept holds body fun _ => holds := by
  apply just_of_follows follows
  · intro past event called
    apply stable past event
    rcases called with plain | quiet
    · exact DkgQuery.isMark_of_plain plain
    · exact quiet.1
  · intro past query _ _ quiet accuses
    exact absurd quiet.2 accuses

theorem asked_of_transaction {toNode : Fin n} {reason : ComplaintReason}
    {client state state' : DKGClient n} {trace : Trace dkgInterface} {receipt : Receipt}
    (run : Runs (DKGClient.complaintTransaction client.nodeIdContract
      (client.group.nodeIdsDkg toNode) reason state) trace (.value receipt, state')) :
    Asked (client.place.complaint toNode reason) trace := by
  unfold DKGClient.complaintTransaction at run
  unfold Place.complaint
  split at run
  · rename_i bad
    rw [if_pos bad]
    rcases Procedure.runs_invoke_iff.mp run with ⟨_, rfl, _, _⟩ | ⟨_, _, absurdity, _⟩
    · exact ⟨_, List.mem_singleton.mpr rfl⟩
    · cases absurdity
  · rename_i other
    rw [if_neg other]
    rcases Procedure.runs_invoke_iff.mp run with ⟨_, rfl, _, _⟩ | ⟨_, _, absurdity, _⟩
    · exact ⟨_, List.mem_singleton.mpr rfl⟩
    · cases absurdity

theorem asked_of_sent {toNode : Fin n} {reason : ComplaintReason} {state state' : DKGClient n}
    {trace : Trace dkgInterface}
    (run : Runs (DKGClient.sendComplaint toNode reason state) trace (.value true, state')) :
    Asked (state.place.complaint toNode reason) trace := by
  unfold DKGClient.sendComplaint at run
  rw [Procedure.read_bind_apply] at run
  obtain ⟨possible, middle, front, _, rfl, asked, run⟩ := Procedure.runs_bind_value run
  obtain ⟨opened, reached, opening, _, rfl, asksOpened, run⟩ := Procedure.runs_bind_value run
  split at run
  · obtain ⟨_, same, _⟩ := Procedure.runs_pure_iff.mp run
    cases same
  rcases Procedure.runs_attempt_iff.mp run with
    ⟨_, same, body⟩ | ⟨error, clause, _, _, _, rfl, handled, _, clauseRun⟩ |
    ⟨_, absurdity, _⟩ | ⟨absurdity, _⟩
  · obtain ⟨receipt, _, posted, _, rfl, transaction, _⟩ := Procedure.runs_bind_value body
    have posts : Asked (state.place.complaint toNode reason) posted :=
      asked_of_transaction transaction
    obtain ⟨answer, member⟩ := posts
    exact ⟨answer, by simp [member]⟩
  · cases error <;> cases handled
    obtain ⟨_, absurdity, _⟩ := Procedure.runs_raise_iff.mp clauseRun
    cases absurdity
  · cases absurdity
  · cases absurdity

theorem Just.asked {toNode : Fin n} {reason : ComplaintReason}
    {holds : Trace dkgInterface → Prop}
    (just : Just fuel rotationId client kept before
      (DKGClient.sendComplaint toNode reason) fun _ => holds) :
    Just fuel rotationId client kept before (DKGClient.sendComplaint toNode reason)
      fun sent past => holds past ∧
        (sent = true → Asked (client.place.complaint toNode reason) past) := by
  intro past state state' trace outcome started run
  obtain ⟨placed, justified, ends⟩ := just started run
  refine ⟨placed, justified, ?_⟩
  rintro sent rfl
  refine ⟨ends sent rfl, ?_⟩
  rintro rfl
  have posted := asked_of_sent run
  rw [started.1] at posted
  obtain ⟨answer, member⟩ := posted
  exact ⟨answer, List.mem_append_right past member⟩

theorem reportBadData_just {fuel' : Nat} {index : Fin n} (lowest : result.Lowest index)
    (received : result.received index = true) (own : result.OwnSet client.nodeIdDkg) :
    Just fuel rotationId client (Checking fuel rotationId client result) (fun _ => True)
      (reportBadData fuel' index) fun _ _ => True := by
  have wrong : result.correct index = false := by
    rcases lowest.incomplete with missing | wrong
    · rw [received] at missing
      cases missing
    · exact wrong
  have foreign := lowest_ne_own lowest own
  have tolerates := fun reason => bystander_tolerant client.place fun query =>
    query = client.place.complaint index reason
  have stays : ∀ past event, DkgQuery.isMark event.query = false →
      Checking fuel rotationId client result past ∧ True →
      Checking fuel rotationId client result (past ++ [event]) ∧ True :=
    fun _ _ unmarked checking => ⟨checking.1.snoc unmarked, trivial⟩
  have staysReported : ∀ past event, DkgQuery.isMark event.query = false →
      Checking fuel rotationId client result past ∧
        Asked (client.place.complaint index .BAD_DATA) past →
      Checking fuel rotationId client result (past ++ [event]) ∧
        Asked (client.place.complaint index .BAD_DATA) (past ++ [event]) :=
    fun _ _ unmarked checking => ⟨checking.1.snoc unmarked, checking.2.append _⟩
  have bad : Just fuel rotationId client (Checking fuel rotationId client result)
      (fun _ => True) (DKGClient.sendComplaint index .BAD_DATA) fun _ _ => True := by
    apply just_complaint ((tolerates .BAD_DATA).client_sendComplaint (.inr rfl)) stays foreign
    intro past checking _
    exact .badData checking.1.unstarted checking.2 lowest received wrong
  have again : Just fuel rotationId client (Checking fuel rotationId client result)
      (Asked (client.place.complaint index .BAD_DATA))
      (DKGClient.sendComplaint index .NO_RESPONSE)
      fun _ => Asked (client.place.complaint index .BAD_DATA) := by
    apply just_complaint ((tolerates .NO_RESPONSE).client_sendComplaint (.inr rfl))
      staysReported foreign
    intro past checking reported
    exact .noResponse checking.1.unstarted reported
  have tolerant := bystander_tolerant client.place DkgQuery.Quiet
  apply just_read_bind
  intro other _
  apply just_passTransactionError
  apply just_bind _ (just_quiet (tolerant.invoke (tolerant.plain _ rfl)) stays)
  intro channelStartedTime
  apply just_bind _ bad.asked
  intro sent
  cases sent with
  | false => exact just_pure fun _ _ => trivial
  | true =>
      rw [if_pos rfl]
      apply Just.strengthen _ fun past reported => reported.2 rfl
      apply just_bind _ (just_quiet (tolerant.waitForFail _ _ _) staysReported)
      intro _
      apply just_bind _ again
      intro _
      apply Just.weaken (just_quiet (tolerant.waitForFail _ _ _) staysReported)
      exact fun _ _ _ => trivial

theorem mem_of_split {done rest : List (Fin n)} {index other : Fin n}
    (split : List.finRange n = done ++ index :: rest) (below : other < index) :
    other ∈ done := by
  have sorted := List.pairwise_lt_finRange n
  have member := List.mem_finRange other
  rw [split] at sorted member
  have ⟨later, _⟩ := List.pairwise_cons.mp (List.pairwise_append.mp sorted).2.1
  rcases List.mem_append.mp member with member | member
  · exact member
  · rcases List.mem_cons.mp member with rfl | member
    · exact absurd below (lt_irrefl _)
    · exact absurd below (lt_asymm (later other member))

theorem checkBroadcastFrom_just {fuel' : Nat} (own : result.OwnSet client.nodeIdDkg)
    {done nodes : List (Fin n)} (split : List.finRange n = done ++ nodes)
    (complete : ∀ other ∈ done, result.received other = true ∧ result.correct other = true) :
    Just fuel rotationId client (Checking fuel rotationId client result) (fun _ => True)
      (checkBroadcastFrom fuel' result nodes) fun _ _ => True := by
  induction nodes generalizing done with
  | nil => exact just_pure fun _ _ => trivial
  | cons index rest ih =>
      have lower : ∀ other < index, result.received other = true ∧
          result.correct other = true :=
        fun other below => complete other (mem_of_split split below)
      unfold checkBroadcastFrom
      split
      · rename_i missing
        have missing : result.received index = false := by simpa using missing
        have lowest : result.Lowest index := ⟨.inl missing, lower⟩
        apply just_complaint ((bystander_tolerant client.place _).sendComplaint (.inr rfl))
        · intro past event unmarked checking
          exact ⟨checking.1.snoc unmarked, trivial⟩
        · exact lowest_ne_own lowest own
        · intro past checking _
          exact .noBroadcast checking.1.unstarted checking.2 lowest missing
      split
      · rename_i received wrong
        have received : result.received index = true := by simpa using received
        have wrong : result.correct index = false := by simpa using wrong
        exact reportBadData_just ⟨.inr wrong, lower⟩ received own
      · rename_i received correct
        have further : List.finRange n = (done ++ [index]) ++ rest := by simp [split]
        apply ih further
        intro other member
        rcases List.mem_append.mp member with member | member
        · exact complete other member
        · rw [List.mem_singleton.mp member]
          simp_all

theorem Just.unkept {body : ClientM n α}
    (just : Just fuel rotationId client kept before body after) :
    Just fuel rotationId client (fun _ => True) (fun past => kept past ∧ before past) body
      fun result past => kept past ∧ after result past := by
  intro past state state' trace outcome ⟨placed, justified, stays, holds⟩ run
  obtain ⟨placedAfter, justifiedAfter, ends⟩ :=
    just ⟨placed, ⟨justified.1, stays⟩, holds⟩ run
  exact ⟨placedAfter, ⟨justifiedAfter.1, trivial⟩, fun result same =>
    ⟨justifiedAfter.2, ends result same⟩⟩

theorem initBlsCheck_just {fuel' : Nat} {time : Int} (own : result.OwnSet client.nodeIdDkg) :
    Just fuel rotationId client (fun _ => True) (Checking fuel rotationId client result)
      (initBlsCheck fuel' (time, result)) fun _ => Early client := by
  have checked : Just fuel rotationId client (Checking fuel rotationId client result)
      (fun _ => True) (checkBroadcastResult fuel' result) fun _ _ => True :=
    checkBroadcastFrom_just own (List.nil_append _).symm nofun
  apply just_bind fun _ => Early client
  · apply Just.strengthen (Just.weaken checked.unkept _)
    · exact fun _ checking => ⟨checking, trivial⟩
    · exact fun _ _ ends => ends.1.1
  intro _
  have tolerant := bystander_tolerant client.place DkgQuery.Quiet
  apply just_bind fun _ => Early client
  · apply just_quiet (tolerant.setStep _)
    intro past event unmarked early
    exact ⟨trivial, early.2.snoc (.inl unmarked)⟩
  intro _
  exact just_pure fun _ early => early

/-! ### The alrights of the others -/

theorem quiet_getComplaintData : DkgQuery.getComplaintData.Quiet :=
  ⟨rfl, rfl⟩

theorem early_quiet {body : ClientM n α}
    (follows : body.Follows (bystander client.place DkgQuery.Quiet)) :
    Just fuel rotationId client (fun _ => True) (Early client) body
      fun _ => Early client := by
  apply just_quiet follows
  intro past event unmarked early
  exact ⟨trivial, early.2.snoc (.inl unmarked)⟩

theorem initBlsAlright_just :
    Just fuel rotationId client (fun _ => True) (Early client) initBlsAlright
      fun _ => Early client := by
  have tolerant := bystander_tolerant client.place fun query =>
    query.Quiet ∨ query = .isAllDataReceived client.nodeIdContract
  apply just_of_follows
    (tolerant.initBlsAlright (.inr (.inl quiet_getComplaintData)) (.inr (.inr rfl)))
  · intro past event called early
    refine ⟨trivial, early.2.snoc ?_⟩
    rcases called with plain | quiet | own
    · exact .inl (DkgQuery.isMark_of_plain plain)
    · exact .inl quiet.1
    · exact .inr own
  · rintro past query _ _ (quiet | rfl) accuses
    · exact absurd quiet.2 accuses
    · exact absurd rfl accuses

theorem bystander_response {place : Place n} {also : DkgQuery → Prop} (toNodeIndex : Nat) :
    (DKGClient.response toNodeIndex).Follows (bystander place also) := by
  have tolerant := bystander_tolerant place also
  apply follows_read_bind
  intro client _
  apply tolerant.plain_bind rfl
  intro possible
  split
  · exact follows_pure _
  apply follows_bind tolerant.isChannelOpened
  intro opened
  split
  · exact follows_pure _
  apply follows_bind
  · apply tolerant.sgxUnreachableRetry
    apply follows_read_bind
    intro client _
    apply follows_getOr_bind fun _ => trivial
    intro index _
    apply tolerant.plain_bind rfl
    intro response
    apply follows_liftExcept_bind fun _ _ => trivial
    intro share _
    exact follows_pure _
  intro ⟨share, dhKey, verificationVectorMult⟩
  apply tolerant.reraiseTransaction
  apply follows_read_bind
  intro client _
  apply follows_liftExcept_bind fun _ _ => trivial
  intro ownVector _
  apply follows_liftExcept_bind fun _ _ => trivial
  intro multVector _
  apply follows_getOr_bind fun _ => trivial
  intro sent _
  apply follows_getOr_bind fun _ => trivial
  intro keyShares _
  apply tolerant.plain_bind rfl
  intro _
  apply follows_bind (tolerant.setStep _)
  intro _
  apply tolerant.plain_bind rfl
  intro possible
  split
  · exact follows_pure _
  apply follows_bind tolerant.isChannelOpened
  intro opened
  split
  · exact follows_pure _
  apply follows_getOr_bind fun _ => trivial
  intro key _
  apply tolerant.plain_bind rfl
  intro _
  exact tolerant.setStep _

theorem bystander_checkResponse {place : Place n} (fuel : Nat) :
    (checkResponse fuel : ClientM n Unit).Follows (bystander place DkgQuery.Quiet) := by
  have tolerant := bystander_tolerant place DkgQuery.Quiet
  apply follows_read_bind
  intro client _
  apply tolerant.invoke_bind (.inr quiet_getComplaintData)
  intro complaintData _
  split
  · apply tolerant.plain_bind rfl
    intro channelStartedTime
    apply follows_bind
    · apply obeys_attempt (bystander_response _)
      intro error clause _ handled
      cases error <;> cases handled <;> exact follows_pure _
    intro _
    exact tolerant.waitForFail _ _ _
  · exact follows_pure _

theorem just_invoke_bind {query : DkgQuery} {next : query.Reply → ClientM n α}
    (middle : query.Reply → Trace dkgInterface → Prop) (harmless : query.accused = none)
    (answered : ∀ past reply, before past → middle reply (past ++ [⟨query, .ok reply⟩]))
    (rest : ∀ reply, Just fuel rotationId client (fun _ => True) (middle reply) (next reply)
      after) :
    Just fuel rotationId client (fun _ => True) before (invoke query >>= next) after := by
  intro past state state' trace outcome ⟨placed, ⟨justified, _⟩, holds⟩ run
  have asked : ∀ answer, Justified fuel rotationId client (past ++ [⟨query, answer⟩]) :=
    fun _ => justified.snoc fun accuses => absurd harmless accuses
  rcases Procedure.runs_invoke_bind_iff.mp run with
    ⟨reply, back, rfl, nextRun⟩ | ⟨error, rfl, rfl, rfl⟩
  · have ends := rest reply ⟨placed, ⟨asked _, trivial⟩, answered past reply holds⟩ nextRun
    rw [List.append_assoc] at ends
    exact ends
  · exact ⟨placed, ⟨asked _, trivial⟩, nofun⟩

theorem just_getOr_bind {error : PyError} {option : Option β} {next : β → ClientM n α}
    (rest : ∀ result, option = some result →
      Just fuel rotationId client kept before (next result) after) :
    Just fuel rotationId client kept before (getOr error option >>= next) after := by
  cases option with
  | none => exact just_raise
  | some result => exact rest result rfl

theorem just_iterate {step : β → ClientM n (β ⊕ α)} (invariant : β → Trace dkgInterface → Prop)
    (just : ∀ current, Just fuel rotationId client kept (invariant current) (step current)
      (Procedure.AfterRound invariant after)) (fuel' : Nat) (current : β) :
    Just fuel rotationId client kept (invariant current) (Procedure.iterate step fuel' current)
      after := by
  induction fuel' generalizing current with
  | zero =>
      apply Procedure.triple_cutOff
      intro past state ⟨placed, justified, _⟩
      exact ⟨placed, justified, nofun⟩
  | succ fuel' ih =>
      apply just_bind _ (just current)
      intro result
      cases result with
      | inl following => exact ih following
      | inr result => exact just_pure fun _ holds => holds

/-- The history while the alrights are looked at; `sent` lists those that were seen. -/
structure Collecting (client : DKGClient n) (sent : Fin n → Bool)
    (past : Trace dkgInterface) : Prop where
  started : Asked .getAlrightStartedTime past
  uncounted : ¬ Asked .getNumberOfCompleted past
  unseen : ∀ index, index ≠ client.nodeIdDkg → sent index = false → Unseen client index past

variable {sent : Fin n → Bool}

theorem Collecting.snoc {past : Trace dkgInterface} {event : Event dkgInterface}
    (collecting : Collecting client sent past) (unmarked : event.query.isMark = false) :
    Collecting client sent (past ++ [event]) where
  started := collecting.started.append _
  uncounted := by
    rw [asked_snoc]
    · exact collecting.uncounted
    · intro same
      rw [same] at unmarked
      cases unmarked
  unseen := by
    intro index foreign missing
    apply unseen_snoc (collecting.unseen index foreign missing)
    rintro rfl
    cases unmarked

theorem Collecting.refreshed {past : Trace dkgInterface} {fromNode : Fin n} {received : Bool}
    (collecting : Collecting client sent past) (missing : sent fromNode = false) :
    Collecting client (Function.update sent fromNode received)
      (past ++ [⟨.isAllDataReceived (client.group.nodeIdsDkg fromNode), .ok received⟩]) where
  started := collecting.started.append _
  uncounted := by
    rw [asked_snoc]
    · exact collecting.uncounted
    · nofun
  unseen := by
    intro index foreign missingNow
    by_cases same : index = fromNode
    · subst same
      rw [Function.update_self] at missingNow
      subst missingNow
      exact unseen_snoc (collecting.unseen index foreign missing) nofun
    · rw [Function.update_of_ne same] at missingNow
      apply unseen_snoc (collecting.unseen index foreign missingNow)
      intro asked
      have asked := DkgQuery.isAllDataReceived.inj (congrArg Event.query asked)
      exact same (client.group.distinct asked).symm

theorem collecting_quiet {body : ClientM n α}
    (follows : body.Follows (bystander client.place DkgQuery.Quiet)) :
    Just fuel rotationId client (fun _ => True) (Collecting client sent) body
      fun _ => Collecting client sent := by
  apply just_quiet follows
  intro past event unmarked collecting
  exact ⟨trivial, collecting.2.snoc unmarked⟩

theorem refreshAlright_just (nodes : List (Fin n)) :
    Just fuel rotationId client (fun _ => True) (Collecting client sent)
      (refreshAlright nodes sent) (Collecting client) := by
  induction nodes generalizing sent with
  | nil => exact just_pure fun _ collecting => collecting
  | cons fromNode rest ih =>
      unfold refreshAlright
      split
      · rename_i missing
        unfold DKGClient.isAllDataReceived
        rw [Procedure.bind_assoc]
        apply just_read_bind
        intro other placed
        have group : other.group = client.group := congrArg Place.group placed
        rw [id, group]
        apply just_invoke_bind
          (fun received => Collecting client (Function.update sent fromNode received)) rfl
        · intro past received collecting
          exact collecting.refreshed (by simpa using missing)
        · intro received
          exact ih
      · exact ih

theorem alrightRound_just (startTimeAlright : Int) (sent : Fin n → Bool) :
    Just fuel rotationId client (fun _ => True) (Collecting client sent)
      (alrightRound startTimeAlright sent)
      (Procedure.AfterRound (Collecting client) (Collecting client)) := by
  have tolerant := bystander_tolerant client.place DkgQuery.Quiet
  unfold alrightRound
  split
  · exact just_pure fun _ collecting => collecting
  apply just_read_bind
  intro other _
  apply just_bind _ (collecting_quiet (tolerant.checkFailedDkg _))
  intro _
  apply just_bind _
    (collecting_quiet (tolerant.checkNoComplaints (.inr quiet_getComplaintData)))
  intro noComplaints
  split
  · exact just_pure fun _ collecting => collecting
  apply just_bind _ (collecting_quiet (tolerant.invoke (tolerant.plain _ rfl)))
  intro now
  split
  · exact just_pure fun _ collecting => collecting
  apply just_bind _ (refreshAlright_just _)
  intro refreshed
  apply just_bind _ (collecting_quiet (tolerant.sleep _))
  intro _
  exact just_pure fun _ collecting => collecting

theorem complainNoAlright_just {fuel' : Nat} (index : Fin n) :
    Just fuel rotationId client (fun _ => True) (Collecting client sent)
      (complainNoAlright fuel' sent index) fun _ => Collecting client sent := by
  apply just_read_bind
  intro other placed
  have own : other.nodeIdDkg = client.nodeIdDkg := congrArg Place.nodeIdDkg placed
  rw [id, own]
  split
  · rename_i accusable
    have missing : sent index = false := by simpa using accusable.1
    apply just_complaint ((bystander_tolerant client.place _).sendComplaint (.inr rfl))
    · intro past event unmarked collecting
      exact ⟨trivial, collecting.2.snoc unmarked⟩
    · exact accusable.2
    · intro past _ collecting
      exact .noAlright collecting.started collecting.uncounted
        (collecting.unseen index accusable.2 missing)
  · exact just_pure fun _ collecting => collecting

theorem complainFrom_just {fuel' : Nat} (nodes : List (Fin n)) :
    Just fuel rotationId client (fun _ => True) (Collecting client sent)
      (complainFrom fuel' sent nodes) fun _ => Collecting client sent := by
  induction nodes with
  | nil => exact just_pure fun _ collecting => collecting
  | cons index rest ih =>
      apply just_bind _ (complainNoAlright_just index)
      intro _
      exact ih

theorem initBlsCollectAlright_just {fuel' : Nat} (sent : Fin n → Bool) :
    Just fuel rotationId client (fun _ => True) (Early client)
      (initBlsCollectAlright fuel' sent) (Collecting client) := by
  have tolerant := bystander_tolerant client.place DkgQuery.Quiet
  apply just_read_bind
  intro other _
  apply just_bind _ (early_quiet (tolerant.checkFailedDkg _))
  intro _
  apply just_bind _ (early_quiet (bystander_checkResponse _))
  intro _
  apply just_invoke_bind (fun _ => Collecting client sent) rfl
  · intro past startTimeAlright early
    exact {
      started := ⟨_, List.mem_append_right past List.mem_cons_self⟩
      uncounted := by
        rw [asked_snoc]
        · exact early.uncounted
        · nofun
      unseen := fun index foreign _ => unseen_snoc (early.unseen index foreign) nofun }
  intro startTimeAlright
  apply just_bind _ (just_iterate _ (alrightRound_just startTimeAlright) _ _)
  intro refreshed
  apply just_bind fun _ => Collecting client refreshed
  · apply just_bind _
      (collecting_quiet (tolerant.checkNoComplaints (.inr quiet_getComplaintData)))
    intro noComplaints
    split
    · exact complainFrom_just _
    · exact just_pure fun _ collecting => collecting
  intro _
  apply just_bind _ (collecting_quiet (bystander_checkResponse _))
  intro _
  exact just_pure fun _ collecting => collecting

/-! ### The complaint that stands at the end -/

theorem settled_quiet {holds : Trace dkgInterface → Prop} {body : ClientM n α}
    (stable : ∀ past later, holds past → holds (past ++ later))
    (follows : body.Follows (bystander client.place DkgQuery.Quiet)) :
    Just fuel rotationId client (fun _ => True) holds body fun _ => holds := by
  apply just_quiet follows
  intro past event _ held
  exact ⟨trivial, stable past _ held.2⟩

theorem initBlsAwaitCompletion_just {fuel' : Nat} (channelStartedTime : Int) :
    Just fuel rotationId client (fun _ => True) before
      (initBlsAwaitCompletion fuel' channelStartedTime)
      fun _ => Asked .getNumberOfCompleted := by
  have tolerant := bystander_tolerant client.place DkgQuery.Quiet
  have stays : ∀ past later, Asked .getNumberOfCompleted past →
      Asked .getNumberOfCompleted (past ++ later) := fun _ later asked => asked.append later
  apply just_read_bind
  intro other _
  unfold DKGClient.isEveryoneSentAlgright
  rw [Procedure.bind_assoc]
  apply just_invoke_bind (fun _ => Asked .getNumberOfCompleted) rfl
  · intro past completed _
    exact ⟨_, List.mem_append_right past List.mem_cons_self⟩
  intro completed
  apply just_bind fun _ => Asked .getNumberOfCompleted
  · exact just_pure fun _ asked => asked
  intro everyone
  split
  · apply just_bind _
      (settled_quiet stays (tolerant.checkNoComplaints (.inr quiet_getComplaintData)))
    intro noComplaints
    split
    · exact settled_quiet stays (tolerant.waitForFail _ _ _)
    · exact just_pure fun _ asked => asked
  · exact just_pure fun _ asked => asked

def Standing (complaintData : Nat × Nat) (past : Trace dkgInterface) : Prop :=
  Asked .getNumberOfCompleted past ∧
    (⟨.getComplaintData, .ok complaintData⟩ : Event dkgInterface) ∈ past

theorem initBlsResolveComplaint_just {fuel' : Nat} (channelStartedTime : Int) :
    Just fuel rotationId client (fun _ => True) (Asked .getNumberOfCompleted)
      (initBlsResolveComplaint fuel' channelStartedTime) fun _ _ => True := by
  have tolerant := bystander_tolerant client.place DkgQuery.Quiet
  have staysAsked : ∀ past later, Asked .getNumberOfCompleted past →
      Asked .getNumberOfCompleted (past ++ later) := fun _ later asked => asked.append later
  have stays : ∀ complaintData past later, Standing complaintData past →
      Standing complaintData (past ++ later) := fun _ _ later standing =>
    ⟨standing.1.append later, List.mem_append_left later standing.2⟩
  apply just_read_bind
  intro other placed
  have own : other.nodeIdDkg = client.nodeIdDkg := congrArg Place.nodeIdDkg placed
  have group : other.group = client.group := congrArg Place.group placed
  rw [id, own, group]
  apply just_bind _
    (settled_quiet staysAsked (tolerant.checkNoComplaints (.inr quiet_getComplaintData)))
  intro noComplaints
  split
  · apply just_bind _ (settled_quiet staysAsked (bystander_checkResponse _))
    intro _
    apply just_invoke_bind Standing rfl
    · intro past complaintData asked
      exact ⟨asked.append _, List.mem_append_right past List.mem_cons_self⟩
    intro complaintData
    apply just_getOr_bind
    intro index found
    apply just_bind _ (settled_quiet (stays _) (tolerant.waitForFail _ _ _))
    intro _
    apply just_bind _ (settled_quiet (stays _) (tolerant.checkFailedDkg _))
    intro unfailed
    split
    · rename_i accusable
      have foreign : index ≠ client.nodeIdDkg := by
        simp only [Bool.and_eq_true, Bool.not_eq_true', beq_eq_false_iff_ne] at accusable
        exact accusable.2
      apply just_bind fun _ => Standing complaintData
      · apply just_complaint ((bystander_tolerant client.place _).sendComplaint (.inr rfl))
        · intro past event _ standing
          exact ⟨trivial, stays _ _ _ standing.2⟩
        · exact foreign
        · intro past _ standing
          have named := Group.nodeIdsContract_eq_some.mp found
          have read := standing.2
          rw [← Prod.mk.eta (p := complaintData), ← named] at read
          exact .standing standing.1 read
      intro _
      apply Just.weaken (settled_quiet (stays _) (tolerant.waitForFail _ _ _))
      exact fun _ _ _ => trivial
    · exact just_pure fun _ _ => trivial
  · exact just_pure fun _ _ => trivial

theorem initBlsAfterReceive_just {fuel' : Nat} {time : Int}
    (own : result.OwnSet client.nodeIdDkg) :
    Just fuel rotationId client (fun _ => True) (Checking fuel rotationId client result)
      (initBlsAfterReceive fuel' (time, result)) fun _ _ => True := by
  have tolerant := bystander_tolerant client.place DkgQuery.Quiet
  apply just_bind _ (initBlsCheck_just own)
  intro ⟨channelStartedTime, _⟩
  apply just_bind _ (early_quiet (tolerant.initBlsAwait _ _))
  intro _
  apply just_bind _ initBlsAlright_just
  intro sent
  apply just_read_bind
  intro other _
  apply just_bind _ (initBlsCollectAlright_just sent)
  intro collected
  apply just_bind _ (initBlsAwaitCompletion_just _)
  intro _
  apply just_bind _ (initBlsResolveComplaint_just _)
  intro _
  split
  · exact just_pure fun _ _ => trivial
  · exact just_raise

end Just

/-! ### Collecting the broadcasts accuses nobody -/

theorem bystander_broadcast {place : Place n} :
    (ensureBroadcast : ClientM n Unit).Follows (bystander place DkgQuery.Quiet) := by
  have tolerant := bystander_tolerant place DkgQuery.Quiet
  apply tolerant.ensureBroadcast
  case generates =>
    intro polyName
    apply tolerant.sgxUnreachableRetry
    apply follows_bind
    · exact Procedure.obeys_modify fun _ placed => placed
    intro _
    exact tolerant.invoke (tolerant.plain _ rfl)
  case first =>
    apply tolerant.sgxUnreachableRetry
    apply follows_read_bind
    intro client _
    apply tolerant.plain_bind rfl
    intro vector
    apply follows_bind
    · exact Procedure.obeys_modify fun _ placed => placed
    intro _
    cases convertG2PointsToArray (.points vector) with
    | ok points => exact follows_pure _
    | error error => exact follows_raise trivial
  case second =>
    apply tolerant.sgxUnreachableRetry
    apply follows_read_bind
    intro client _
    apply tolerant.invoke_bind (.inr ⟨rfl, rfl⟩)
    intro sent _
    apply follows_bind
    · exact Procedure.obeys_modify fun _ placed => placed
    intro _
    apply follows_bind
    · exact Procedure.obeys_modify fun _ placed => placed
    intro _
    cases convertStrToKeyShare sent n with
    | some shares => exact follows_pure _
    | none => exact follows_raise trivial

theorem quiet_of_isScan {query : DkgQuery} (scans : query.isScan = true) : query.Quiet := by
  cases query <;> first | exact ⟨rfl, rfl⟩ | cases scans

theorem bystander_receptive (place : Place n) :
    Receptive (bystander place DkgQuery.Quiet) place (fun _ => True) fun _ => True where
  starts _ _ := trivial
  scans := by
    intro fromChannelStartedBlock filter filter' trace outcome _ _ run
    refine ⟨?_, ?_⟩
    · intro event member
      exact .inr (quiet_of_isScan (Filter.getEvents_scans run event member))
    · cases outcome with
      | value events => exact ⟨trivial, fun _ _ => trivial⟩
      | raised error => exact ⟨trivial, trivial⟩
      | running => trivial
  finds _ _ _ := trivial
  stores := by
    intro event fromNode _ _
    apply follows_read_bind
    intro client _
    apply follows_bind
    · exact Procedure.obeys_modify fun _ placed => placed
    intro _
    split
    · apply follows_getOr_bind fun _ => trivial
      intro points _
      apply follows_bind
      · exact Procedure.obeys_modify fun _ placed => placed
      intro _
      exact Procedure.obeys_modify fun _ placed => placed
    · exact Procedure.obeys_modify fun _ placed => placed

theorem bystander_receive (place : Place n) (fuel rotationId : Nat) :
    (initBlsReceive fuel rotationId : ClientM n _).Obeys (bystander place DkgQuery.Quiet)
      (bystander place DkgQuery.Quiet).keeps
      fun received client => client.place = place ∧ received.2.OwnSet place.nodeIdDkg := by
  have tolerant := bystander_tolerant place DkgQuery.Quiet
  apply Procedure.obeys_read_bind
  intro client _
  apply tolerant.plain_bind rfl
  intro channelStartedTime
  apply tolerant.plain_bind rfl
  intro rotationMainnet
  split
  · exact Procedure.obeys_raise trivial fun _ placed => placed
  apply Procedure.obeys_bind _ bystander_broadcast
  intro _
  apply Procedure.obeys_bind _ ((bystander_receptive place).receiveBroadcastData tolerant fuel)
  intro result
  exact Procedure.obeys_pure fun _ ends => ends

theorem early_of_quiet {client : DKGClient n} {trace : Trace dkgInterface}
    (calls : ∀ event ∈ trace, event.query.isPlain = true ∨ event.query.Quiet) :
    Early client trace := by
  have unmarked : ∀ event ∈ trace, event.query.isMark = false := by
    intro event member
    rcases calls event member with plain | quiet
    · exact DkgQuery.isMark_of_plain plain
    · exact quiet.1
  refine ⟨?_, ?_, ?_⟩
  · rintro ⟨answer, member⟩
    cases unmarked _ member
  · rintro ⟨answer, member⟩
    cases unmarked _ member
  · intro index _ member
    cases unmarked _ member

theorem justified_of_quiet {fuel rotationId : Nat} {client : DKGClient n}
    {trace : Trace dkgInterface}
    (calls : ∀ event ∈ trace, event.query.isPlain = true ∨ event.query.Quiet) :
    Justified fuel rotationId client trace := by
  rintro past query answer rest rfl accuses
  rcases calls ⟨query, answer⟩ (by simp) with plain | quiet
  · exact absurd (DkgQuery.accused_of_plain plain) accuses
  · exact absurd quiet.2 accuses

theorem initBls_justified {fuel rotationId : Nat} {client client' : DKGClient n}
    {trace : Trace dkgInterface} {outcome : Outcome PyError Unit}
    (run : Runs (initBls fuel rotationId client) trace (outcome, client')) :
    Justified fuel rotationId client trace := by
  rw [initBls_eq] at run
  have receives := bystander_receive client.place fuel rotationId
  rcases Procedure.runs_bind_iff.mp run with
    ⟨⟨time, result⟩, middle, front, back, rfl, receiveRun, restRun⟩ | ⟨error, _, receiveRun⟩ |
    ⟨_, receiveRun⟩
  · obtain ⟨calls, placed, own⟩ := receives rfl trivial receiveRun
    have checking : Checking fuel rotationId client result front :=
      ⟨early_of_quiet calls, front, [], time, middle, (List.append_nil _).symm, receiveRun⟩
    exact (initBlsAfterReceive_just own
      ⟨placed, ⟨justified_of_quiet calls, trivial⟩, checking⟩ restRun).2.1.1
  · exact justified_of_quiet (receives rfl trivial receiveRun).1
  · exact justified_of_quiet (receives rfl trivial receiveRun).1

/-- In a group of distinct ids the maps are inverse to each other, and the complaints of
every run of `init_bls` are about other nodes and have their grounds. -/
theorem complaint_targets (schainName : String) (nodes : List SchainNode) (nodeId : Nat)
    (distinct : (nodes.map SchainNode.id).Nodup) (member : nodeId ∈ nodes.map SchainNode.id) :
    ∃ tables, initDkgClient schainName (nodes.map some) nodeId = .ok tables ∧
      tables.Inverse nodes ∧
      ∀ client : DKGClient nodes.length, tables.Makes client →
        client.nodeIdContract = nodeId ∧
        (∀ id, tables.nodeIdsContract id = (client.group.nodeIdsContract id).map Fin.val) ∧
        ∀ (fuel rotationId : Nat) (trace : Trace dkgInterface)
          (outcome : Outcome PyError Unit) (client' : DKGClient nodes.length),
          Runs (initBls fuel rotationId client) trace (outcome, client') →
          Justified fuel rotationId client trace := by
  obtain ⟨tables, made, reflects⟩ := NodeTables.initDkgClient_reflects schainName distinct member
  refine ⟨tables, made, reflects.inverse, ?_⟩
  intro client makes
  refine ⟨?_, fun id => makes.nodeIdsContract reflects.inverse id, ?_⟩
  · have own := (reflects.own client.nodeIdDkg).mp makes.node
    rw [← reflects.ids, makes.ids] at own
    exact Option.some.inj own
  · intro fuel rotationId trace outcome client' run
    exact initBls_justified run

section TwoNodes

def twoEntries : List SchainNode := [⟨10, ['k']⟩, ⟨11, ['l']⟩]

def twoEntriesClient : DKGClient twoEntries.length :=
  { twoNodeClient with publicKeys := [['k'], ['l']] }

theorem badShare_reported :
    Procedure.ends (initBls 2 0) twoEntriesClient
      (collection false ++ failedComplaint ++ alrightSent) (fun _ _ => true) = true := by
  decide +kernel

theorem badShare_complaint_targets :
    ∃ tables, initDkgClient "chain" (twoEntries.map some) 10 = .ok tables ∧
      tables.Inverse twoEntries ∧ tables.Makes twoEntriesClient ∧
      Justified 2 0 twoEntriesClient (collection false ++ failedComplaint ++ alrightSent) := by
  obtain ⟨tables, made, inverse, targets⟩ :=
    complaint_targets "chain" twoEntries 10 (by decide) (by decide)
  refine ⟨tables, made, inverse, ?_⟩
  have makes : tables.Makes twoEntriesClient := by
    cases made
    refine ⟨rfl, ?_, rfl⟩
    exact Fin.forall_fin_two.mpr ⟨rfl, rfl⟩
  obtain ⟨_, client', run, _⟩ := Procedure.runs_of_ends badShare_reported
  exact ⟨makes, (targets twoEntriesClient makes).2.2 _ _ _ _ _ run⟩

end TwoNodes

end SkaleAdmin.Dkg
