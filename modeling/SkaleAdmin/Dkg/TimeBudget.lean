import SkaleAdmin.Library.Waiting
import SkaleAdmin.Dkg.Main
import Mathlib.Algebra.Group.Nat.Defs
import Mathlib.Algebra.Group.Prod

/-! How long a run of `run_dkg` may sleep. -/

namespace SkaleAdmin.Dkg

open Interaction PyText
open Interaction.Procedure (pays_bind pays_attempt pays_pure pays_raise pays_read pays_modify)

variable {n : Nat}

/-! ### The clock -/

def slept (event : Event dkgInterface) : Nat :=
  match event.query with
  | .sleep seconds => seconds
  | _ => 0

/-- The sleeps after attempts at an unreachable SGX are powers of two, those of the wait
loops are not. -/
def retried (event : Event dkgInterface) : Nat :=
  match event.query with
  | .sleep 30 => 0
  | .sleep seconds => seconds
  | _ => 0

def polled (reached : Bool) (event : Event dkgInterface) : Nat :=
  match event.query with
  | .sleep 30 => 30
  | .sleep seconds => if reached then seconds else 0
  | _ => 0

/-- A `wait_for_fail` asks for the timeout before its loop, and the start time of the
alright is asked for before that loop. -/
def entersWait (event : Event dkgInterface) : Nat :=
  match event.query with
  | .getDkgTimeout | .getAlrightStartedTime => 1
  | _ => 0

/-- Asked in each round of the loop of `receive_broadcast_data`, and once after it. -/
def asksEveryone (event : Event dkgInterface) : Nat :=
  match event.query with
  | .isEveryoneBroadcasted => 1
  | _ => 0

/-- The clock of the chain is that of the sleeps, and no start time lies in the future. -/
def chainClock (reached : Bool) (dkgTimeout : Nat) : Timing dkgInterface where
  takes := slept
  fits now
    | ⟨.getLatestBlockTimestamp, .ok time⟩ => time = now
    | ⟨.getDkgTimeout, .ok timeout⟩ => timeout = dkgTimeout
    | ⟨.getChannelStartedTime, .ok started⟩ => started ≤ now
    | ⟨.getAlrightStartedTime, .ok started⟩ => started ≤ now
    | ⟨_, .error (.sgxUnreachableError _)⟩ => reached = false
    | _ => True

/-- The wait loops that a run has come to: one is counted with the call in front of it, also
where that raises or the loop ends before its first round. -/
def waitLoops (trace : Trace dkgInterface) : Nat :=
  total entersWait trace + min 1 (total asksEveryone trace)

/-- Of `(credit, polls, loops)`: the run comes to `loops` waits, and `credit` more and `polls`
polls for broadcasts may have been slept for, each for `allowance` seconds. -/
def waitGrade (reached : Bool) (allowance : Nat) :
    Grade dkgInterface (Nat × Nat × Nat) where
  holds index trace :=
    total entersWait trace ≤ index.2.2 ∧
      total (polled reached) trace ≤ (total entersWait trace + index.1 +
        min index.2.1 (total asksEveryone trace)) * allowance
  nil := by simp
  append := by
    intro i j front back ⟨frontLoops, frontPaid⟩ ⟨backLoops, backPaid⟩
    simp only [total_append, Prod.fst_add, Prod.snd_add]
    refine ⟨by omega, ?_⟩
    calc total (polled reached) front + total (polled reached) back
      _ ≤ (total entersWait front + i.1 + min i.2.1 (total asksEveryone front)) * allowance +
          (total entersWait back + j.1 + min j.2.1 (total asksEveryone back)) * allowance :=
        Nat.add_le_add frontPaid backPaid
      _ = (total entersWait front + i.1 + min i.2.1 (total asksEveryone front) +
          (total entersWait back + j.1 + min j.2.1 (total asksEveryone back))) * allowance :=
        (Nat.add_mul ..).symm
      _ ≤ _ := Nat.mul_le_mul_right allowance (by omega)
  weaken := by
    intro i j trace ⟨loops, paid⟩
    simp only [Prod.fst_add, Prod.snd_add]
    exact ⟨by omega, paid.trans (Nat.mul_le_mul_right allowance (by omega))⟩

/-! ### Procedures that do not wait -/

section Idle

variable {σ α β : Type} {timeout : Nat} {keeps : σ → Prop}

/-- No wait loop is entered; the retries of an unreachable SGX may sleep. -/
def Idle (timeout : Nat) (keeps : σ → Prop) (body : DkgM σ α) : Prop :=
  ∀ reached, body.Idles (chainClock reached timeout) keeps (polled reached) entersWait

def DkgQuery.isIdle : DkgQuery → Bool
  | .getDkgTimeout | .getAlrightStartedTime | .sleep _ => false
  | _ => true

theorem untouched_of_idle {reached : Bool} {query : DkgQuery} (idle : query.isIdle = true)
    (answer : Except PyError query.Reply) :
    (Grade.untouched (polled reached) entersWait).holds () [⟨query, answer⟩] := by
  cases query with
  | sleep seconds => cases idle
  | getDkgTimeout => cases idle
  | getAlrightStartedTime => cases idle
  | _ => exact ⟨rfl, rfl⟩

theorem idle_pure (result : α) : Idle timeout keeps (pure result : DkgM σ α) :=
  fun _ _ => pays_pure result

theorem idle_raise (error : PyError) :
    Idle timeout keeps (Procedure.raise error : DkgM σ α) :=
  fun _ _ => pays_raise error

theorem idle_read (view : σ → α) :
    Idle timeout keeps (Procedure.read view : DkgM σ α) :=
  fun _ _ => pays_read view

theorem idle_modify {change : σ → σ}
    (stays : ∀ state, keeps state → keeps (change state)) :
    Idle timeout keeps (Procedure.modify change : DkgM σ Unit) :=
  fun _ _ => pays_modify stays

theorem idle_invoke {query : DkgQuery} (idle : query.isIdle = true) :
    Idle timeout keeps (invoke query : DkgM σ query.Reply) :=
  fun _ _ => Procedure.pays_invoke (untouched_of_idle idle)

theorem idle_bind {first : DkgM σ β} {next : β → DkgM σ α}
    (firstIdle : Idle timeout keeps first)
    (nextIdle : ∀ result, Idle timeout keeps (next result)) :
    Idle timeout keeps (first >>= next) :=
  fun reached origin => pays_bind (firstIdle reached origin) fun result =>
    nextIdle result reached origin

theorem idle_attempt {body : DkgM σ α} {handler : PyError → Option (DkgM σ α)}
    (bodyIdle : Idle timeout keeps body)
    (clauseIdle : ∀ error clause, handler error = some clause →
      Idle timeout keeps clause) :
    Idle timeout keeps (Procedure.attempt body handler) :=
  fun reached origin => pays_attempt (bodyIdle reached origin) fun error clause handled =>
    clauseIdle error clause handled reached origin

theorem idle_ite {condition : Prop} [Decidable condition] {first second : DkgM σ α}
    (firstIdle : Idle timeout keeps first) (secondIdle : Idle timeout keeps second) :
    Idle timeout keeps (if condition then first else second) := by
  split
  · exact firstIdle
  · exact secondIdle

theorem idle_getOr (error : PyError) (option : Option α) :
    Idle timeout keeps (getOr error option : DkgM σ α) := by
  cases option with
  | none => exact idle_raise error
  | some result => exact idle_pure result

theorem untouched_sleep {seconds : Nat} (apart : seconds ≠ 30)
    (answer : Except PyError Unit) :
    (Grade.untouched (polled false) entersWait).holds () [⟨.sleep seconds, answer⟩] := by
  refine ⟨?_, rfl⟩
  have light : polled false ⟨.sleep seconds, answer⟩ = 0 := by
    unfold polled
    split <;> simp_all
  simp [light]

theorem retryTimeout_ne (retries : Nat) : retryTimeout retries ≠ 30 := by
  have powers : ∀ exponent < 14, 2 ^ exponent ≠ 30 := by decide
  exact powers _ (Nat.lt_of_le_of_lt (Nat.sub_le _ retries) (by decide))

/-- Where SGX is reached, the body does not say that it is not. -/
def Reaches (func : DkgM σ α) : Prop :=
  ∀ ⦃timeout now state state' trace error⦄, (chainClock true timeout).Timely now trace →
    Program.Runs (func state) trace (.raised error, state') →
      ∀ message, error ≠ .sgxUnreachableError message

theorem reaches_of_answer {query : DkgQuery} {error : PyError} {now : Int}
    (fits : (chainClock true timeout).fits now ⟨query, .error error⟩) (message : String) :
    error ≠ .sgxUnreachableError message := by
  rintro rfl
  cases query <;> cases fits

theorem reaches_pure (result : α) : Reaches (pure result : DkgM σ α) := by
  intro timeout now state state' trace error _ run
  cases (Procedure.runs_pure_iff.mp run).2.1

theorem reaches_raise {error : PyError}
    (apart : ∀ message, error ≠ .sgxUnreachableError message) :
    Reaches (Procedure.raise error : DkgM σ α) := by
  intro timeout now state state' trace raised _ run
  cases (Procedure.runs_raise_iff.mp run).2.1
  exact apart

theorem reaches_read (view : σ → α) : Reaches (Procedure.read view : DkgM σ α) := by
  intro timeout now state state' trace error _ run
  cases (Procedure.runs_read_iff.mp run).2.1

theorem reaches_modify (change : σ → σ) :
    Reaches (Procedure.modify change : DkgM σ Unit) := by
  intro timeout now state state' trace error _ run
  cases (Procedure.runs_modify_iff.mp run).2.1

theorem reaches_invoke (query : DkgQuery) :
    Reaches (invoke query : DkgM σ query.Reply) := by
  intro timeout now state state' trace error timely run
  rcases Procedure.runs_invoke_iff.mp run with ⟨_, _, same, _⟩ | ⟨_, rfl, same, _⟩
  · cases same
  · cases same
    exact reaches_of_answer timely.1

theorem reaches_bind {first : DkgM σ β} {next : β → DkgM σ α}
    (firstReaches : Reaches first) (nextReaches : ∀ result, Reaches (next result)) :
    Reaches (first >>= next) := by
  intro timeout now state state' trace error timely run
  rcases Procedure.runs_bind_raised run with ⟨result, _, front, back, rfl, _, nextRun⟩ | firstRun
  · exact nextReaches result (Timing.timely_append.mp timely).2 nextRun
  · exact firstReaches timely firstRun

theorem reaches_getOr {error : PyError} (option : Option α)
    (apart : ∀ message, error ≠ .sgxUnreachableError message) :
    Reaches (getOr error option : DkgM σ α) := by
  cases option with
  | none => exact reaches_raise apart
  | some result => exact reaches_pure result

theorem idle_retryUnreachable {func : DkgM σ α} (idle : Idle timeout keeps func)
    (reaches : Reaches func) (retries : Nat) :
    Idle timeout keeps (retryUnreachable func retries) := by
  -- The clause that sleeps is taken only where SGX is not reached.
  have rests : ∀ {seconds : Nat} {rest : PyError → DkgM σ α}
      {handler : PyError → Option (DkgM σ α)},
      seconds ≠ 30 → (∀ error, Idle timeout keeps (rest error)) →
      (∀ error clause, handler error = some clause →
        (∃ message, error = .sgxUnreachableError message) ∧
          clause = sleep seconds >>= fun _ => rest error) →
      Idle timeout keeps (Procedure.attempt func handler) := by
    intro seconds rest handler apart restIdle clauses reached origin
    cases reached with
    | false =>
        apply pays_attempt (idle false origin)
        intro error clause handled
        obtain ⟨_, rfl⟩ := clauses error clause handled
        have rested : (sleep seconds : DkgM σ Unit).Pays (chainClock false timeout)
            (Grade.untouched (polled false) entersWait) keeps origin () :=
          pays_bind (j := ()) (Procedure.pays_ask (untouched_sleep apart)) fun _ => pays_pure ()
        exact pays_bind rested fun _ => restIdle error false origin
    | true =>
        intro now state state' trace outcome late kept timely run
        rcases Procedure.runs_attempt_iff.mp run with
          ⟨_, rfl, bodyRun⟩ | ⟨error, clause, _, front, back, rfl, handled, bodyRun, _⟩ |
          ⟨_, rfl, _, bodyRun⟩ | ⟨rfl, bodyRun⟩
        · exact idle true origin late kept timely bodyRun
        · obtain ⟨⟨message, unreachable⟩, _⟩ := clauses error clause handled
          exact absurd unreachable
            (reaches (Timing.timely_append.mp timely).1 bodyRun message)
        · exact idle true origin late kept timely bodyRun
        · exact idle true origin late kept timely bodyRun
  induction retries with
  | zero =>
      apply rests (retryTimeout_ne 0) fun error => idle_raise error
      intro error clause handled
      cases error <;> cases handled
      exact ⟨⟨_, rfl⟩, rfl⟩
  | succ retries ih =>
      apply rests (retryTimeout_ne (retries + 1)) fun _ => ih
      intro error clause handled
      cases error <;> cases handled
      exact ⟨⟨_, rfl⟩, rfl⟩

theorem idle_sgxUnreachableRetry {func : DkgM σ α} (idle : Idle timeout keeps func)
    (reaches : Reaches func) : Idle timeout keeps (sgxUnreachableRetry func) :=
  idle_retryUnreachable idle reaches _

theorem idle_onFirst {τ : Type} {body : DkgM σ α} (idle : Idle timeout keeps body) :
    Idle timeout (Procedure.OfFirst keeps) (Procedure.onFirst body : DkgM (σ × τ) α) :=
  fun reached origin => Procedure.pays_onFirst (idle reached origin)

theorem idle_onSecond {τ : Type} {body : DkgM τ α}
    (idle : Idle timeout (fun _ => True) body) :
    Idle timeout (Procedure.OfFirst keeps) (Procedure.onSecond body : DkgM (σ × τ) α) :=
  fun reached origin => Procedure.pays_onSecond (idle reached origin)

theorem idle_withLocal {τ : Type} {initial : τ} {body : DkgM (σ × τ) α}
    (idle : Idle timeout (Procedure.OfFirst keeps) body) :
    Idle timeout keeps (Procedure.withLocal initial body) :=
  fun reached origin => Procedure.pays_withLocal (idle reached origin)

end Idle

def HasTimeout (timeout : Nat) (client : DKGClient n) : Prop :=
  client.dkgTimeout = timeout

section Calls

variable {α : Type} {timeout : Nat}

abbrev Quick (timeout : Nat) (body : ClientM n α) : Prop :=
  Idle timeout (HasTimeout timeout) body

theorem idle_liftExcept (result : Except PyError α) :
    Quick timeout (DKGClient.liftExcept result : ClientM n α) := by
  cases result with
  | ok value => exact idle_pure value
  | error error => exact idle_raise error

theorem reaches_liftExcept {result : Except PyError α}
    (apart : ∀ message, result ≠ .error (.sgxUnreachableError message)) :
    Reaches (DKGClient.liftExcept result : ClientM n α) := by
  cases result with
  | ok value => exact reaches_pure value
  | error error => exact reaches_raise fun message same => apart message (congrArg _ same)

theorem idle_setStep (step : DKGStep) :
    Quick timeout (DKGClient.setStep step : ClientM n Unit) :=
  idle_modify fun _ kept => kept

theorem idle_isChannelOpened :
    Quick timeout (DKGClient.isChannelOpened : ClientM n Bool) :=
  idle_invoke rfl

theorem idle_checkFailedDkg (schainName : String) :
    Quick timeout (checkFailedDkg schainName : ClientM n Bool) := by
  apply idle_bind idle_isChannelOpened
  intro opened
  apply idle_ite (idle_pure _)
  apply idle_bind (idle_invoke rfl)
  intro successful
  apply idle_ite (idle_pure _)
  apply idle_bind (idle_invoke rfl)
  intro time
  exact idle_ite (idle_pure _) (idle_raise _)

theorem idle_checkNoComplaints : Quick timeout (checkNoComplaints : ClientM n Bool) :=
  idle_bind (idle_invoke rfl) fun _ => idle_pure _

theorem idle_isAllDataReceived (fromNode : Fin n) :
    Quick timeout (DKGClient.isAllDataReceived fromNode) :=
  idle_bind (idle_read _) fun _ => idle_invoke rfl

theorem idle_refreshAlright (nodes : List (Fin n)) (sent : Fin n → Bool) :
    Quick timeout (refreshAlright nodes sent) := by
  induction nodes generalizing sent with
  | nil => exact idle_pure _
  | cons fromNode rest ih =>
      apply idle_ite _ (ih sent)
      exact idle_bind (idle_isAllDataReceived _) fun _ => ih _

/-! ### Complaints and responses -/

theorem idle_reraiseTransaction (error : PyError) (clause : ClientM n α)
    (handled : DKGClient.reraiseTransaction error = some clause) : Quick timeout clause := by
  cases error <;> cases handled
  exact idle_raise _

theorem idle_complaintTransaction (fromId toId : Nat) (reason : ComplaintReason) :
    Quick timeout (DKGClient.complaintTransaction fromId toId reason : ClientM n Receipt) :=
  idle_ite (idle_invoke rfl) (idle_invoke rfl)

theorem idle_client_sendComplaint (toNode : Fin n) (reason : ComplaintReason) :
    Quick timeout (DKGClient.sendComplaint toNode reason) := by
  apply idle_bind (idle_read _)
  intro client
  apply idle_bind (idle_invoke rfl)
  intro possible
  apply idle_bind idle_isChannelOpened
  intro opened
  apply idle_ite (idle_pure _)
  apply idle_attempt _ idle_reraiseTransaction
  apply idle_bind (idle_complaintTransaction _ _ _)
  intro receipt
  apply idle_bind (idle_getOr _ _)
  intro logs
  apply idle_bind (idle_getOr _ _)
  intro log
  apply idle_bind (idle_liftExcept _)
  intro accepted
  exact idle_ite (idle_bind (idle_setStep _) fun _ => idle_pure _) (idle_pure _)

theorem idle_getComplaintResponse (toNodeIndex : Nat) :
    Quick timeout (DKGClient.getComplaintResponse toNodeIndex :
      ClientM n (G2Point × Text × List (List Text))) := by
  apply idle_sgxUnreachableRetry
  · apply idle_bind (idle_read _)
    intro client
    apply idle_bind (idle_getOr _ _)
    intro index
    apply idle_bind (idle_invoke rfl)
    intro response
    exact idle_bind (idle_liftExcept _) fun _ => idle_pure _
  · apply reaches_bind (reaches_read _)
    intro client
    apply reaches_bind (reaches_getOr _ (by nofun))
    intro index
    apply reaches_bind (reaches_invoke _)
    intro response
    exact reaches_bind (reaches_liftExcept (DKGClient.convertShare_ne _)) fun _ => reaches_pure _

theorem idle_sendResponse (share : G2Point) (dhKey : Text)
    (verificationVectorMult : List (List Text)) :
    Quick timeout (DKGClient.sendResponse share dhKey verificationVectorMult :
      ClientM n Unit) := by
  apply idle_bind (idle_read _)
  intro client
  apply idle_bind (idle_liftExcept _)
  intro ownVector
  apply idle_bind (idle_liftExcept _)
  intro multVector
  apply idle_bind (idle_getOr _ _)
  intro sent
  apply idle_bind (idle_getOr _ _)
  intro keyShares
  apply idle_bind (idle_invoke rfl)
  intro _
  apply idle_bind (idle_setStep _)
  intro _
  apply idle_bind (idle_invoke rfl)
  intro possible
  apply idle_ite (idle_pure _)
  apply idle_bind idle_isChannelOpened
  intro opened
  apply idle_ite (idle_pure _)
  apply idle_bind (idle_getOr _ _)
  intro key
  exact idle_bind (idle_invoke rfl) fun _ => idle_setStep _

theorem idle_client_response (toNodeIndex : Nat) :
    Quick timeout (DKGClient.response toNodeIndex : ClientM n Unit) := by
  apply idle_bind (idle_read _)
  intro client
  apply idle_bind (idle_invoke rfl)
  intro possible
  apply idle_ite (idle_pure _)
  apply idle_bind idle_isChannelOpened
  intro opened
  apply idle_ite (idle_pure _)
  apply idle_bind (idle_getComplaintResponse _)
  intro answer
  exact idle_attempt (idle_sendResponse _ _ _) idle_reraiseTransaction

theorem idle_response (toNodeIndex : Nat) :
    Quick timeout (response toNodeIndex : ClientM n Unit) := by
  apply idle_attempt (idle_client_response _)
  intro error clause handled
  cases error <;> cases handled
  · exact idle_pure _
  · exact idle_pure _

/-! ### Broadcasts -/

theorem idle_storeBroadcastedData (data : Text × Text) (fromNode : Fin n) :
    Quick timeout (DKGClient.storeBroadcastedData data fromNode) := by
  apply idle_bind (idle_read _)
  intro client
  apply idle_bind
  · exact idle_modify fun _ kept => kept
  intro _
  apply idle_ite
  · apply idle_bind (idle_getOr _ _)
    intro points
    apply idle_bind
    · exact idle_modify fun _ kept => kept
    intro _
    exact idle_modify fun _ kept => kept
  · exact idle_modify fun _ kept => kept

theorem idle_broadcast : Quick timeout (DKGClient.broadcast : ClientM n Unit) := by
  apply idle_bind (idle_read _)
  intro client
  apply idle_bind
  · apply idle_sgxUnreachableRetry
    · apply idle_bind
      · exact idle_modify fun _ kept => kept
      exact fun _ => idle_invoke rfl
    · exact reaches_bind (reaches_modify _) fun _ => reaches_invoke _
  intro polySuccess
  apply idle_ite (idle_raise _)
  apply idle_bind (idle_invoke rfl)
  intro possible
  apply idle_bind idle_isChannelOpened
  intro opened
  apply idle_ite (idle_pure _)
  apply idle_bind
  · apply idle_sgxUnreachableRetry
    · apply idle_bind (idle_read _)
      intro client
      apply idle_bind (idle_invoke rfl)
      intro vector
      apply idle_bind
      · exact idle_modify fun _ kept => kept
      exact fun _ => idle_liftExcept _
    · apply reaches_bind (reaches_read _)
      intro client
      apply reaches_bind (reaches_invoke _)
      intro vector
      apply reaches_bind (reaches_modify _)
      exact fun _ => reaches_liftExcept (convertG2PointsToArray_ne _)
  intro verificationVector
  apply idle_bind
  · apply idle_sgxUnreachableRetry
    · apply idle_bind (idle_read _)
      intro client
      apply idle_bind (idle_invoke rfl)
      intro sent
      apply idle_bind
      · exact idle_modify fun _ kept => kept
      intro _
      apply idle_bind
      · exact idle_modify fun _ kept => kept
      exact fun _ => idle_getOr _ _
    · apply reaches_bind (reaches_read _)
      intro client
      apply reaches_bind (reaches_invoke _)
      intro sent
      apply reaches_bind (reaches_modify _)
      intro _
      apply reaches_bind (reaches_modify _)
      exact fun _ => reaches_getOr _ (by nofun)
  intro secretKeyContribution
  exact idle_bind (idle_invoke rfl) fun _ => idle_setStep _

theorem idle_ensureBroadcast : Quick timeout (ensureBroadcast : ClientM n Unit) := by
  apply idle_bind
  · exact idle_bind (idle_read _) fun _ => idle_invoke rfl
  intro broadcasted
  exact idle_ite (idle_setStep _) idle_broadcast

theorem idle_verifyReceived (fromNode : Fin n) :
    Quick timeout (DKGClient.verifyReceived fromNode) := by
  apply idle_bind (idle_read _)
  intro client
  apply idle_ite (idle_pure _)
  apply idle_attempt
  · apply idle_bind
    · apply idle_sgxUnreachableRetry
      · exact idle_bind (idle_read _) fun _ => idle_invoke rfl
      · exact reaches_bind (reaches_read _) fun _ => reaches_invoke _
    intro verified
    exact idle_ite (idle_pure _) (idle_raise _)
  · intro error clause handled
    cases error <;> cases handled
    exact idle_raise _

theorem idle_syncEvent (progress : BroadcastProgress n) (event : DKGEvent) :
    Quick timeout (syncEvent progress event) := by
  apply idle_bind (idle_read _)
  intro client
  apply idle_bind (idle_getOr _ _)
  intro fromNode
  apply idle_ite (idle_pure _)
  apply idle_attempt
  · apply idle_bind
    · exact idle_bind (idle_storeBroadcastedData _ _) fun _ => idle_verifyReceived _
    · exact fun _ => idle_pure _
  · intro error clause handled
    cases error <;> cases handled
    exact idle_pure _

theorem idle_syncEvents (events : List DKGEvent) (progress : BroadcastProgress n) :
    Quick timeout (syncEvents events progress) := by
  induction events generalizing progress with
  | nil => exact idle_pure _
  | cons event rest ih => exact idle_bind (idle_syncEvent _ _) fun _ => ih _

theorem idle_alright : Quick timeout (DKGClient.alright : ClientM n Unit) := by
  apply idle_bind (idle_read _)
  intro client
  apply idle_bind (idle_invoke rfl)
  intro possible
  apply idle_ite (idle_pure _)
  apply idle_bind idle_isChannelOpened
  intro opened
  apply idle_ite (idle_pure _)
  exact idle_bind (idle_invoke rfl) fun _ => idle_setStep _

theorem idle_initBlsAlright :
    Quick timeout (initBlsAlright : ClientM n (Fin n → Bool)) := by
  apply idle_bind (idle_read _)
  intro client
  apply idle_bind idle_checkNoComplaints
  intro noComplaints
  apply idle_ite _ (idle_pure _)
  apply idle_bind _ fun _ => idle_pure _
  apply idle_bind (idle_read _)
  intro client
  apply idle_bind (idle_isAllDataReceived _)
  intro received
  exact idle_ite (idle_setStep _) idle_alright

/-! ### Scans and keys -/

abbrev Scanning : Filter.Scan → Prop := Procedure.OfFirst fun _ => True

theorem idle_collectTx (tx : Tx) : Idle timeout Scanning (Filter.collectTx tx) := by
  apply idle_bind (idle_read _)
  intro filter
  apply idle_ite (idle_pure _)
  match tx.hash with
  | none | some [] => exact idle_pure _
  | some (symbol :: hash) =>
      apply idle_bind (idle_invoke rfl)
      intro receipt
      apply idle_ite (idle_pure _)
      cases filter.parseEvent receipt with
      | ok event => exact idle_modify fun _ kept => kept
      | error error => exact idle_raise _

theorem idle_collectTxs (txs : List Tx) : Idle timeout Scanning (Filter.collectTxs txs) := by
  induction txs with
  | nil => exact idle_pure _
  | cons tx rest ih =>
      apply idle_bind _ fun _ => ih
      apply idle_attempt (idle_collectTx tx)
      intro error clause handled
      cases error <;> cases handled
      exact idle_pure _

theorem idle_collectBlocks (blocks : List Nat) :
    Idle timeout Scanning (Filter.collectBlocks blocks) := by
  induction blocks with
  | nil => exact idle_pure _
  | cons blockNumber rest ih =>
      apply idle_bind (idle_invoke rfl)
      intro block
      apply idle_bind (idle_collectTxs _)
      intro _
      apply idle_bind
      · exact idle_modify fun _ kept => kept
      exact fun _ => ih

theorem idle_getEvents (fromChannelStartedBlock : Bool) :
    Idle timeout (fun _ => True) (Filter.getEvents fromChannelStartedBlock) := by
  apply idle_bind _ fun _ => idle_pure _
  apply idle_withLocal
  apply idle_attempt
  · apply idle_bind (idle_read _)
    intro filter
    apply idle_bind
    · exact idle_ite (idle_invoke rfl) (idle_pure _)
    intro first
    apply idle_bind (idle_invoke rfl)
    intro currentBlock
    exact idle_collectBlocks _
  · intro error clause handled
    unfold Filter.keepCollected at handled
    split at handled
    · obtain rfl := Option.some.inj handled
      exact idle_pure _
    · cases handled

theorem idle_fetchAllBroadcastedData :
    Quick timeout (DKGClient.fetchAllBroadcastedData : ClientM n Unit) := by
  have stored : ∀ events, Quick timeout (DKGClient.storeEvents events : ClientM n Unit) := by
    intro events
    induction events with
    | nil => exact idle_pure _
    | cons event rest ih =>
        apply idle_bind (idle_read _)
        intro client
        apply idle_bind (idle_getOr _ _)
        intro fromNode
        exact idle_bind (idle_storeBroadcastedData _ _) fun _ => ih
  apply idle_bind (idle_read _)
  intro client
  apply idle_bind
  · exact idle_withLocal (idle_onSecond (idle_getEvents true))
  exact fun _ => stored _

theorem idle_isLastDkgFinished : Quick timeout (isLastDkgFinished : ClientM n Bool) :=
  idle_bind (idle_invoke rfl) fun _ => idle_bind (idle_invoke rfl) fun _ => idle_pure _

theorem idle_fetchBlsPublicKeyOnce :
    Quick timeout (DKGClient.fetchBlsPublicKeyOnce : ClientM n Unit) := by
  apply idle_bind (idle_read _)
  intro client
  apply idle_bind (idle_invoke rfl)
  intro key
  exact idle_modify fun _ kept => kept

theorem reaches_fetchBlsPublicKeyOnce :
    Reaches (DKGClient.fetchBlsPublicKeyOnce : ClientM n Unit) := by
  apply reaches_bind (reaches_read _)
  intro client
  exact reaches_bind (reaches_invoke _) fun _ => reaches_modify _

theorem idle_isBlsKeyGenerated :
    Quick timeout (DKGClient.isBlsKeyGenerated : ClientM n Bool) := by
  apply idle_sgxUnreachableRetry
  · apply idle_bind (idle_read _)
    intro client
    apply idle_attempt
    · exact idle_bind (idle_invoke rfl) fun _ => idle_pure _
    · intro error clause handled
      rw [DKGClient.absentKey_cases handled]
      exact idle_pure _
  · apply reaches_bind (reaches_read _)
    intro client timeout now state state' trace error timely run
    rcases Procedure.runs_attempt_iff.mp run with
      ⟨_, same, _⟩ | ⟨_, clause, _, _, back, _, handled, _, clauseRun⟩ |
      ⟨_, same, _, bodyRun⟩ | ⟨same, _⟩
    · cases same
    · rw [DKGClient.absentKey_cases handled] at clauseRun
      cases (Procedure.runs_pure_iff.mp clauseRun).2.1
    · cases same
      exact reaches_bind (reaches_invoke _) (fun _ => reaches_pure _) timely bodyRun
    · cases same

theorem idle_obtainBlsKey : Quick timeout (obtainBlsKey : ClientM n Unit) := by
  apply idle_bind idle_isBlsKeyGenerated
  intro generated
  apply idle_ite
  · exact idle_sgxUnreachableRetry idle_fetchBlsPublicKeyOnce reaches_fetchBlsPublicKeyOnce
  apply idle_bind _ fun _ => idle_pure _
  apply idle_sgxUnreachableRetry
  · apply idle_bind (idle_read _)
    intro client
    apply idle_bind (idle_invoke rfl)
    intro key
    exact idle_bind idle_fetchBlsPublicKeyOnce fun _ => idle_pure _
  · apply reaches_bind (reaches_read _)
    intro client
    apply reaches_bind (reaches_invoke _)
    intro key
    exact reaches_bind reaches_fetchBlsPublicKeyOnce fun _ => reaches_pure _

theorem idle_getBlsPublicKeys :
    Quick timeout (DKGClient.getBlsPublicKeys : ClientM n (List (List Text))) := by
  apply idle_sgxUnreachableRetry
  · apply idle_bind (idle_read _)
    intro client
    apply idle_bind (idle_getOr _ _)
    intro own
    apply idle_bind
    · exact idle_modify fun _ kept => kept
    intro _
    exact idle_bind (idle_read _) fun _ => idle_invoke rfl
  · apply reaches_bind (reaches_read _)
    intro client
    apply reaches_bind (reaches_getOr _ (by nofun))
    intro own
    apply reaches_bind (reaches_modify _)
    intro _
    exact reaches_bind (reaches_read _) fun _ => reaches_invoke _

theorem idle_generateBlsKeys : Quick timeout (generateBlsKeys : ClientM n KeysData) := by
  apply idle_bind
  · apply idle_attempt
    · apply idle_bind idle_obtainBlsKey
      intro _
      apply idle_bind idle_getBlsPublicKeys
      intro blsPublicKeys
      apply idle_bind _ fun _ => idle_pure _
      exact idle_bind (idle_invoke rfl) fun _ => idle_pure _
    · intro error clause handled
      obtain rfl := Option.some.inj handled
      exact idle_raise _
  intro keys
  apply idle_bind (idle_setStep _)
  intro _
  apply idle_bind (idle_read _)
  intro client
  exact idle_bind (idle_getOr _ _) fun _ => idle_pure _

theorem idle_runDkgKeyGeneration (status : Option DKGStatus) :
    Quick timeout (runDkgKeyGeneration status :
      ClientM n (Option KeysData × Option DKGStatus)) := by
  unfold runDkgKeyGeneration
  apply idle_ite _ (idle_pure _)
  apply idle_attempt
  · exact idle_bind idle_generateBlsKeys fun _ => idle_pure _
  · intro error clause handled
    cases error <;> cases handled
    exact idle_pure _

end Calls

/-! ### Rounds -/

section Rounds

variable {σ τ α β : Type} {reached : Bool} {timeout : Nat} {keeps : σ → Prop}
  {deadline origin : Int}

abbrev WaitRound (reached : Bool) (timeout : Nat) (keeps : σ → Prop) (deadline origin : Int)
    (body : DkgM σ (β ⊕ α)) : Prop :=
  body.Paced (chainClock reached timeout) keeps (polled reached) entersWait 30 deadline origin

theorem paced_bind {first : DkgM σ τ} {next : τ → DkgM σ (β ⊕ α)}
    (idle : Idle timeout keeps first)
    (paced : ∀ result, WaitRound reached timeout keeps deadline origin (next result)) :
    WaitRound reached timeout keeps deadline origin (first >>= next) :=
  Procedure.paced_bind (idle reached) paced

theorem paced_again (early : origin ≤ deadline) (following : β) :
    WaitRound reached timeout keeps deadline origin (do
      sleep 30
      return .inl following : DkgM σ (β ⊕ α)) := by
  intro now state state' trace outcome _ kept _ run
  rcases Procedure.runs_bind_iff.mp run with
    ⟨_, _, front, back, rfl, rested, ended⟩ | ⟨_, _, rested⟩ | ⟨_, rested⟩
  · obtain ⟨answer, rfl, _, rfl⟩ := runs_sleep_iff.mp rested
    obtain ⟨rfl, rfl, rfl⟩ := Procedure.runs_pure_iff.mp ended
    exact ⟨kept, nofun, rfl, early, le_rfl, rfl⟩
  · obtain ⟨_, _, same, _⟩ := runs_sleep_iff.mp rested
    cases same
  · obtain ⟨_, _, same, _⟩ := runs_sleep_iff.mp rested
    cases same

theorem paced_getLatestBlockTimestamp {next : Int → DkgM σ (β ⊕ α)}
    (paced : ∀ time, origin ≤ time →
      WaitRound reached timeout keeps deadline origin (next time)) :
    WaitRound reached timeout keeps deadline origin (getLatestBlockTimestamp >>= next) := by
  apply Procedure.paced_invoke_bind fun _ => ⟨rfl, rfl⟩
  intro now time late fits
  cases fits
  exact paced _ late

theorem paced_waitRound (schainName : String) (channelStartedTime startTime : Int) :
    WaitRound reached timeout (HasTimeout timeout) (startTime + timeout - 1) origin
      (waitRound schainName channelStartedTime startTime timeout : ClientM n (Unit ⊕ Unit)) := by
  apply paced_getLatestBlockTimestamp
  intro time late
  split
  case isTrue => exact Procedure.paced_inr _
  case isFalse early =>
    apply paced_bind (idle_checkFailedDkg _)
    intro _
    apply paced_bind (idle_invoke rfl)
    intro current
    split
    case isTrue => exact paced_again (by simp at early; omega) ()
    case isFalse => exact Procedure.paced_raise _

theorem paced_receiveRound (startTime : Int) (progress : BroadcastProgress n) :
    WaitRound reached timeout (Procedure.OfFirst (HasTimeout timeout)) (startTime + timeout) origin
      (receiveRound startTime progress) := by
  unfold receiveRound
  split
  case isTrue => exact Procedure.paced_inr _
  case isFalse =>
    apply Procedure.paced_read
    intro state held
    apply paced_getLatestBlockTimestamp
    intro time late
    apply paced_bind
    · apply idle_bind (idle_onFirst (idle_invoke rfl))
      intro everyone
      apply idle_bind (idle_onSecond (idle_getEvents _))
      intro events
      exact idle_onFirst (idle_syncEvents _ _)
    intro progress
    have same : state.1.dkgTimeout = timeout := held
    split
    case isTrue => exact Procedure.paced_inr _
    case isFalse early => exact paced_again (by omega) progress

theorem paced_alrightRound (startTimeAlright : Int) (sent : Fin n → Bool) :
    WaitRound reached timeout (HasTimeout timeout) (startTimeAlright + timeout) origin
      (alrightRound startTimeAlright sent) := by
  unfold alrightRound
  split
  case isTrue => exact Procedure.paced_inr _
  case isFalse =>
    apply Procedure.paced_read
    intro client held
    apply paced_bind (idle_checkFailedDkg _)
    intro _
    apply paced_bind idle_checkNoComplaints
    intro noComplaints
    split
    case isTrue => exact Procedure.paced_inr _
    case isFalse =>
      apply paced_getLatestBlockTimestamp
      intro time late
      have same : client.dkgTimeout = timeout := held
      split
      case isTrue => exact Procedure.paced_inr _
      case isFalse early =>
        apply paced_bind (idle_refreshAlright _ _)
        intro sent
        exact paced_again (by simp at early; omega) sent

theorem asks_of_sync {progress : BroadcastProgress n} {state : DKGClient n × Filter}
    {trace : Trace dkgInterface}
    {ended : Outcome PyError (BroadcastProgress n) × DKGClient n × Filter}
    (run : Program.Runs (syncBroadcastData progress state) trace ended) :
    0 < total asksEveryone trace := by
  have asked : ∀ {front : Trace dkgInterface} {outcome : Outcome PyError Bool} {middle},
      Program.Runs ((Procedure.onFirst DKGClient.isEveryoneBroadcasted :
        PollM n Bool) state) front (outcome, middle) → 0 < total asksEveryone front := by
    intro front outcome middle asking
    rcases Procedure.runs_invoke_iff.mp (Procedure.runs_onFirst_iff.mp asking).2 with
      ⟨_, rfl, _⟩ | ⟨_, rfl, _⟩
    · exact Nat.one_pos
    · exact Nat.one_pos
  obtain ⟨outcome, state'⟩ := ended
  rcases Procedure.runs_bind_iff.mp run with
    ⟨_, _, front, back, rfl, asking, _⟩ | ⟨_, _, asking⟩ | ⟨_, asking⟩
  · rw [total_append]
    exact Nat.add_pos_left (asked asking) _
  · exact asked asking
  · exact asked asking

def askedFirst (reached : Bool) {σ : Type} : Frame dkgInterface σ where
  holds trace _ _ := total (polled reached) trace = 0 ∨ 0 < total asksEveryone trace
  refl _ := .inl rfl
  trans front back := by
    rw [total_append, total_append]
    omega

theorem receiveRound_askedFirst (reached : Bool) (startTime : Int)
    (progress : BroadcastProgress n) :
    (receiveRound startTime progress).Within (askedFirst reached) := by
  unfold receiveRound
  split
  · exact Procedure.within_pure _
  apply Procedure.within_bind (Procedure.within_read _)
  intro client
  apply Procedure.within_bind
  · exact Procedure.within_invoke fun _ _ => .inl rfl
  intro now state state' trace outcome run
  apply Or.inr
  rcases Procedure.runs_bind_iff.mp run with
    ⟨_, _, front, back, rfl, sync, _⟩ | ⟨_, _, sync⟩ | ⟨_, sync⟩
  · rw [total_append]
    exact Nat.add_pos_left (asks_of_sync sync) _
  · exact asks_of_sync sync
  · exact asks_of_sync sync

end Rounds

/-! ### Wait loops -/

section Grade

variable {reached : Bool} {allowance : Nat} {event : Event dkgInterface}
  {back : Trace dkgInterface}

theorem holds_cons {index : Nat × Nat × Nat} (light : polled reached event = 0)
    (unmarked : entersWait event = 0) (held : (waitGrade reached allowance).holds index back) :
    (waitGrade reached allowance).holds index (event :: back) := by
  obtain ⟨loops, paid⟩ := held
  simp only [waitGrade, total_cons, light, unmarked, Nat.zero_add]
  exact ⟨loops, paid.trans (Nat.mul_le_mul_right allowance (by omega))⟩

theorem holds_enter {credit polls loops : Nat} (light : polled reached event = 0)
    (marked : entersWait event = 1)
    (held : (waitGrade reached allowance).holds (credit + 1, polls, loops) back) :
    (waitGrade reached allowance).holds (credit, polls, loops + 1) (event :: back) := by
  obtain ⟨entered, paid⟩ := held
  simp only [waitGrade, total_cons, light, marked, Nat.zero_add] at entered paid ⊢
  exact ⟨by omega, paid.trans (Nat.mul_le_mul_right allowance (by omega))⟩

end Grade

section Waits

variable {α β σ : Type} {reached : Bool} {timeout fuel : Nat} {keeps : σ → Prop}
  {origin : Int}

theorem pays_iterate {step : β → DkgM σ (β ⊕ α)} {deadline : Int}
    (paced : ∀ origin current, WaitRound reached timeout keeps deadline origin (step current))
    (near : deadline ≤ origin + timeout) (enough : timeout + 30 < 30 * fuel) (current : β) :
    (Procedure.iterate step fuel current).Pays (chainClock reached timeout)
      (waitGrade reached (timeout + 30)) keeps origin (1, 0, 0) := by
  cases fuel with
  | zero => omega
  | succ fuel =>
      intro now state state' trace outcome late kept timely run
      obtain ⟨kept, ends, unmarked, bound⟩ :=
        Procedure.spends_iterate paced fuel current (by omega) late kept timely run
      refine ⟨kept, ends, by simp [unmarked], ?_⟩
      simp only [unmarked, Nat.zero_add, Nat.zero_min, Nat.add_zero, Nat.one_mul]
      omega

/-- A procedure that polls for broadcasts up to `polls` times and enters up to `loops` of
the other wait loops. -/
def Waits (timeout polls loops : Nat) (body : ClientM n α) : Prop :=
  ∀ reached origin, body.Pays (chainClock reached timeout) (waitGrade reached (timeout + 30))
    (HasTimeout timeout) origin (0, polls, loops)

theorem Waits.mono {polls polls' loops loops' : Nat} {body : ClientM n α}
    (waits : Waits timeout polls loops body) (morePolls : polls ≤ polls')
    (moreLoops : loops ≤ loops') : Waits timeout polls' loops' body := by
  intro reached origin
  have weakened : body.Pays _ _ _ origin
      ((0, polls, loops) + (0, polls' - polls, loops' - loops)) := (waits reached origin).weaken
  rwa [Prod.mk_add_mk, Prod.mk_add_mk, Nat.add_sub_cancel' morePolls,
    Nat.add_sub_cancel' moreLoops] at weakened

theorem waits_of_idle {body : ClientM n α} (idle : Quick timeout body) :
    Waits timeout 0 0 body := by
  intro reached origin now state state' trace outcome late kept timely run
  obtain ⟨kept, ends, light, unmarked⟩ := idle reached origin late kept timely run
  exact ⟨kept, ends, by simp [unmarked], by simp [light]⟩

theorem waits_bind {polls polls' loops loops' : Nat} {first : ClientM n β}
    {next : β → ClientM n α} (firstWaits : Waits timeout polls loops first)
    (nextWaits : ∀ result, Waits timeout polls' loops' (next result)) :
    Waits timeout (polls + polls') (loops + loops') (first >>= next) :=
  fun reached origin => pays_bind (firstWaits reached origin) fun result =>
    nextWaits result reached origin

theorem waits_idle_bind {polls loops : Nat} {first : ClientM n β} {next : β → ClientM n α}
    (idle : Quick timeout first)
    (nextWaits : ∀ result, Waits timeout polls loops (next result)) :
    Waits timeout polls loops (first >>= next) :=
  fun reached origin => Procedure.pays_bind_of_idle (waits_of_idle idle reached origin)
    fun result => nextWaits result reached origin

theorem waits_bind_idle {polls loops : Nat} {first : ClientM n β} {next : β → ClientM n α}
    (firstWaits : Waits timeout polls loops first)
    (idle : ∀ result, Quick timeout (next result)) :
    Waits timeout polls loops (first >>= next) :=
  waits_bind firstWaits fun result => waits_of_idle (idle result)

theorem waits_one_bind {polls loops : Nat} {first : ClientM n β} {next : β → ClientM n α}
    (firstWaits : Waits timeout 0 1 first)
    (nextWaits : ∀ result, Waits timeout polls loops (next result)) :
    Waits timeout polls (loops + 1) (first >>= next) :=
  (waits_bind firstWaits nextWaits).mono (Nat.zero_add _).le (Nat.add_comm _ _).le

theorem waits_ite {polls loops : Nat} {condition : Prop} [Decidable condition]
    {first second : ClientM n α} (firstWaits : Waits timeout polls loops first)
    (secondWaits : Waits timeout polls loops second) :
    Waits timeout polls loops (if condition then first else second) := by
  split
  · exact firstWaits
  · exact secondWaits

theorem waits_pure (polls loops : Nat) (result : α) :
    Waits timeout polls loops (pure result : ClientM n α) :=
  (waits_of_idle (idle_pure result)).mono (Nat.zero_le _) (Nat.zero_le _)

theorem waits_attempt {polls loops : Nat} {body : ClientM n α}
    {handler : PyError → Option (ClientM n α)} (bodyWaits : Waits timeout polls loops body)
    (clauseIdle : ∀ error clause, handler error = some clause → Quick timeout clause) :
    Waits timeout polls loops (Procedure.attempt body handler) :=
  fun reached origin => pays_attempt (bodyWaits reached origin) fun error clause handled =>
    waits_of_idle (clauseIdle error clause handled) reached origin

variable (enough : timeout + 30 < 30 * fuel)

include enough

theorem waits_waitForFail (schainName : String) (channelStartedTime : Int) :
    Waits timeout 0 1 (waitForFail fuel schainName channelStartedTime : ClientM n Unit) := by
  intro reached origin
  apply Procedure.pays_invoke_bind fun _ _ held => holds_cons rfl rfl held
  intro now startTime late fits
  cases fits
  apply Procedure.pays_invoke_bind fun _ _ held => holds_enter rfl rfl held
  intro later dkgTimeout _ fits
  cases fits
  exact pays_iterate (fun _ _ => paced_waitRound _ _ _) (by omega) enough ()

theorem waits_alright {loops : Nat} {next : (Fin n → Bool) → ClientM n α}
    (nextWaits : ∀ sent, Waits timeout 0 loops (next sent)) (sent : Fin n → Bool) :
    Waits timeout 0 (loops + 1) (do
      let startTimeAlright : Int ← invoke .getAlrightStartedTime
      let sent ← Procedure.iterate (alrightRound startTimeAlright) fuel sent
      next sent) := by
  intro reached origin
  apply Procedure.pays_invoke_bind fun _ _ held => holds_enter rfl rfl held
  intro now startTimeAlright late started
  have both := pays_bind (pays_iterate
    (fun _ sent => paced_alrightRound startTimeAlright sent)
    (Int.add_le_add_right started _) enough sent) fun sent => nextWaits sent reached now
  simpa using both

theorem waits_receiveBroadcastData :
    Waits timeout 1 0 (receiveBroadcastData fuel : ClientM n (BroadcastResult n)) := by
  apply waits_idle_bind (idle_read _)
  intro client reached origin
  apply Procedure.pays_invoke_bind fun _ _ held => holds_cons rfl rfl held
  intro now startTime late started
  refine pays_bind (i := (0, 1, 0)) (j := 0) (Procedure.pays_withLocal ?_) fun _ => pays_pure _
  intro later state state' trace outcome since kept timely run
  obtain ⟨kept, ends, loops, paid⟩ := pays_iterate
    (fun _ _ => paced_receiveRound startTime _) (Int.add_le_add_right started _) enough
    (BroadcastProgress.start (id client).nodeIdDkg) since kept timely run
  refine ⟨kept, ends, loops, ?_⟩
  have asked := Procedure.within_iterate (receiveRound_askedFirst reached startTime) _ _ run
  have unmarked : total entersWait trace = 0 := Nat.le_zero.mp loops
  simp only [unmarked] at paid ⊢
  rcases asked with light | asked
  · rw [light]
    exact Nat.zero_le _
  · rw [Nat.min_eq_left asked]
    simpa using paid

theorem waits_sendComplaint (index : Fin n) (reason : ComplaintReason) :
    Waits timeout 0 1 (sendComplaint fuel index reason) := by
  apply waits_idle_bind (idle_read _)
  intro client
  apply waits_idle_bind (idle_invoke rfl)
  intro channelStartedTime
  apply waits_attempt
  · apply waits_idle_bind (idle_client_sendComplaint _ _)
    intro sent
    exact waits_ite (waits_waitForFail enough _ _) (waits_pure _ _ _)
  · intro error clause handled
    cases error <;> cases handled
    exact idle_pure _

theorem waits_reportBadData (index : Fin n) :
    Waits timeout 0 2 (reportBadData fuel index) := by
  apply waits_idle_bind (idle_read _)
  intro client
  apply waits_attempt
  · apply waits_idle_bind (idle_invoke rfl)
    intro channelStartedTime
    apply waits_idle_bind (idle_client_sendComplaint _ _)
    intro sent
    apply waits_ite _ (waits_pure _ _ _)
    apply waits_one_bind (waits_waitForFail enough _ _)
    intro _
    exact waits_idle_bind (idle_client_sendComplaint _ _) fun _ =>
      waits_waitForFail enough _ _
  · intro error clause handled
    cases error <;> cases handled
    exact idle_pure _

theorem waits_checkBroadcastFrom (result : BroadcastResult n) (nodes : List (Fin n)) :
    Waits timeout 0 2 (checkBroadcastFrom fuel result nodes) := by
  induction nodes with
  | nil => exact waits_pure _ _ _
  | cons i rest ih =>
      unfold checkBroadcastFrom
      apply waits_ite ((waits_sendComplaint enough i _).mono le_rfl (by omega))
      exact waits_ite (waits_reportBadData enough i) ih

theorem waits_broadcastAndCheckData :
    Waits timeout 1 2 (broadcastAndCheckData fuel : ClientM n (BroadcastResult n)) := by
  apply waits_idle_bind idle_ensureBroadcast
  intro _
  have checked : ∀ result : BroadcastResult n, Waits timeout 0 2 (do
      checkBroadcastResult fuel result
      DKGClient.setStep .BROADCAST_VERIFICATION
      return result) := fun result =>
    waits_bind (waits_checkBroadcastFrom enough _ _) fun _ =>
      waits_of_idle (idle_bind (idle_setStep _) fun _ => idle_pure _)
  exact waits_bind (waits_receiveBroadcastData enough) checked

theorem waits_checkResponse : Waits timeout 0 1 (checkResponse fuel : ClientM n Unit) := by
  apply waits_idle_bind (idle_read _)
  intro client
  apply waits_idle_bind (idle_invoke rfl)
  intro complaintData
  apply waits_ite _ (waits_pure _ _ _)
  apply waits_idle_bind (idle_invoke rfl)
  intro channelStartedTime
  exact waits_idle_bind (idle_response _) fun _ => waits_waitForFail enough _ _

theorem waits_complainFrom (sent : Fin n → Bool) (nodes : List (Fin n)) :
    Waits timeout 0 nodes.length (complainFrom fuel sent nodes) := by
  induction nodes with
  | nil => exact waits_pure _ _ _
  | cons i rest ih =>
      have one : Waits timeout 0 1 (complainNoAlright fuel sent i) := by
        apply waits_idle_bind (idle_read _)
        intro client
        exact waits_ite (waits_sendComplaint enough i _) (waits_pure _ _ _)
      have both := waits_bind one fun _ => ih
      rwa [Nat.add_comm 1] at both

theorem waits_initBlsCollectAlright (sent : Fin n → Bool) :
    Waits timeout 0 (n + 3) (initBlsCollectAlright fuel sent) := by
  have complained : ∀ sent : Fin n → Bool,
      Waits timeout 0 n (complainAboutMissing fuel sent) := by
    intro sent
    have all := waits_complainFrom enough sent (List.finRange n)
    rw [List.length_finRange] at all
    exact waits_idle_bind idle_checkNoComplaints fun _ => waits_ite all (waits_pure _ _ _)
  have rest : ∀ sent : Fin n → Bool, Waits timeout 0 (n + 1) (do
      complainAboutMissing fuel sent
      checkResponse fuel
      return sent) := fun sent =>
    (waits_bind (complained sent) fun _ =>
      waits_bind (waits_checkResponse enough) fun _ => waits_pure 0 0 _).mono le_rfl le_rfl
  apply waits_idle_bind (idle_read _)
  intro client
  apply waits_idle_bind (idle_checkFailedDkg _)
  intro _
  exact waits_one_bind (waits_checkResponse enough) fun _ => waits_alright enough rest sent

theorem waits_initBlsResolveComplaint (channelStartedTime : Int) :
    Waits timeout 0 4 (initBlsResolveComplaint fuel channelStartedTime : ClientM n Unit) := by
  apply waits_idle_bind (idle_read _)
  intro client
  apply waits_idle_bind idle_checkNoComplaints
  intro noComplaints
  apply waits_ite _ (waits_pure _ _ _)
  apply waits_one_bind (waits_checkResponse enough)
  intro _
  apply waits_idle_bind (idle_invoke rfl)
  intro complaintData
  apply waits_idle_bind (idle_getOr _ _)
  intro complaintedNodeIndex
  apply waits_one_bind (waits_waitForFail enough _ _)
  intro _
  apply waits_idle_bind (idle_checkFailedDkg _)
  intro open_
  apply waits_ite _ (waits_pure _ _ _)
  exact waits_one_bind (waits_sendComplaint enough _ _) fun _ =>
    waits_waitForFail enough _ _

theorem waits_initBlsBroadcast (rotationId : Nat) :
    Waits timeout 1 2 (initBlsBroadcast fuel rotationId :
      ClientM n (Int × BroadcastResult n)) := by
  apply waits_idle_bind (idle_read _)
  intro client
  apply waits_idle_bind (idle_invoke rfl)
  intro channelStartedTime
  apply waits_idle_bind (idle_invoke rfl)
  intro rotationMainnet
  apply waits_ite
  · exact (waits_of_idle (idle_raise _)).mono (Nat.zero_le _) (Nat.zero_le _)
  · exact waits_bind (waits_broadcastAndCheckData enough) fun _ => waits_pure 0 0 _

theorem waits_initBlsAwait (channelStartedTime : Int) :
    Waits timeout 0 1 (initBlsAwait fuel channelStartedTime : ClientM n Unit) := by
  have awaited : Waits timeout 0 1 (awaitBroadcasts fuel channelStartedTime :
      ClientM n Unit) := by
    apply waits_idle_bind (idle_read _)
    intro client
    apply waits_idle_bind (idle_invoke rfl)
    intro everyone
    exact waits_ite (waits_pure _ _ _) (waits_waitForFail enough _ _)
  apply waits_idle_bind (idle_read _)
  intro client
  exact waits_bind awaited fun _ =>
    waits_of_idle (idle_bind (idle_checkFailedDkg _) fun _ => idle_pure _)

theorem waits_initBlsFinish (channelStartedTime : Int) (sent : Fin n → Bool) :
    Waits timeout 0 (n + 8) (initBlsFinish fuel channelStartedTime sent) := by
  have completed : Waits timeout 0 1 (initBlsAwaitCompletion fuel channelStartedTime :
      ClientM n Unit) := by
    apply waits_idle_bind (idle_read _)
    intro client
    apply waits_idle_bind (idle_bind (idle_invoke rfl) fun _ => idle_pure _)
    intro everyone
    apply waits_ite _ (waits_pure _ _ _)
    apply waits_idle_bind idle_checkNoComplaints
    intro noComplaints
    exact waits_ite (waits_waitForFail enough _ _) (waits_pure _ _ _)
  apply waits_idle_bind (idle_read _)
  intro client
  refine (waits_bind (waits_initBlsCollectAlright enough sent)
    fun sent => ?_).mono (Nat.zero_add 0).le (show n + 3 + 5 ≤ n + 8 by omega)
  refine waits_one_bind completed fun _ => ?_
  exact waits_bind_idle (waits_initBlsResolveComplaint enough _) fun _ =>
    idle_ite (idle_pure _) (idle_raise _)

theorem waits_initBls (rotationId : Nat) :
    Waits timeout 1 (n + 11) (initBls fuel rotationId : ClientM n Unit) := by
  have all := waits_bind (waits_initBlsBroadcast (n := n) enough rotationId) fun started =>
    waits_bind (waits_initBlsAwait enough started.1) fun _ =>
      waits_idle_bind idle_initBlsAlright fun sent => waits_initBlsFinish enough started.1 sent
  exact all.mono le_rfl (by omega)

theorem waits_runDkg (rotationId : Nat) :
    Waits timeout 1 (n + 11) (runDkg fuel rotationId : ClientM n DKGResult) := by
  have procedure : Waits timeout 1 (n + 11) (runDkgProcedure fuel rotationId :
      ClientM n (Option DKGStatus)) := by
    apply waits_attempt
    · apply waits_idle_bind idle_isLastDkgFinished
      intro finished
      apply waits_ite
      · exact (waits_of_idle (idle_bind idle_fetchAllBroadcastedData fun _ =>
          idle_pure _)).mono (Nat.zero_le _) (Nat.zero_le _)
      apply waits_idle_bind idle_isChannelOpened
      intro opened
      apply waits_ite _ (waits_pure _ _ _)
      apply waits_idle_bind idle_isChannelOpened
      intro opened
      apply waits_ite _ (waits_pure _ _ _)
      exact waits_bind_idle (waits_initBls enough rotationId) fun _ => idle_pure _
    · intro error clause handled
      rw [failDkg_cases handled]
      exact idle_pure _
  apply waits_bind_idle procedure
  intro status
  exact idle_bind (idle_runDkgKeyGeneration status) fun _ =>
    idle_bind (idle_read _) fun _ => idle_pure _

end Waits

/-! ### The budget -/

def stuckTimeout (dkgTimeout : Nat) : Nat := dkgTimeout * 22 / 10

theorem slept_eq (event : Event dkgInterface) :
    slept event = polled true event ∧ slept event = retried event + polled false event := by
  obtain ⟨query, answer⟩ := event
  cases query with
  | sleep seconds =>
      by_cases pause : seconds = 30
      · subst pause
        exact ⟨rfl, rfl⟩
      · simp [slept, polled, retried]
  | _ => exact ⟨rfl, rfl⟩

theorem total_slept (trace : Trace dkgInterface) :
    total slept trace = total retried trace + total (polled false) trace := by
  induction trace with
  | nil => rfl
  | cons event rest ih =>
      simp only [total_cons, ih, (slept_eq event).2]
      omega

def SgxReached (trace : Trace dkgInterface) : Prop :=
  ∀ query message, ⟨query, .error (.sgxUnreachableError message)⟩ ∉ trace

theorem timely_reached {timeout : Nat} {now : Int} {trace : Trace dkgInterface}
    (timely : (chainClock false timeout).Timely now trace) (reached : SgxReached trace) :
    (chainClock true timeout).Timely now trace := by
  induction trace generalizing now with
  | nil => trivial
  | cons event rest ih =>
      obtain ⟨fits, timely⟩ := timely
      have later : SgxReached rest := fun query message member =>
        reached query message (List.mem_cons_of_mem _ member)
      refine ⟨?_, ih timely later⟩
      obtain ⟨query, answer⟩ := event
      cases answer with
      | ok reply => cases query <;> exact fits
      | error error =>
          have apart : ∀ message, error ≠ .sgxUnreachableError message := by
            rintro message rfl
            exact reached query message List.mem_cons_self
          cases query <;> cases error <;> first | trivial | exact absurd rfl (apart _)

def StartsWithChannel (now : Int) (trace : Trace dkgInterface) : Prop :=
  ∀ started, ⟨.getChannelStartedTime, .ok started⟩ ∈ trace → started = now

/-- A run ends by itself. Each of the at most `n + 12` wait loops that it comes to sleeps for
up to the timeout and one pause, so that the run sleeps within the budget of the task when
it comes to one or two of them. What is slept after attempts at an unreachable SGX is counted
apart. -/
theorem runDkg_sleeps {fuel timeout rotationId : Nat} (enough : timeout + 30 < 30 * fuel)
    {client client' : DKGClient n} (held : client.dkgTimeout = timeout) {now : Int}
    {trace : Trace dkgInterface} {outcome : Outcome PyError DKGResult}
    (timely : (chainClock false timeout).Timely now trace)
    (run : Program.Runs (runDkg fuel rotationId client) trace (outcome, client')) :
    outcome ≠ .running ∧ waitLoops trace ≤ n + 12 ∧
      total slept trace ≤ total retried trace + waitLoops trace * (timeout + 30) ∧
      (SgxReached trace → total slept trace ≤ waitLoops trace * (timeout + 30)) ∧
      (SgxReached trace → waitLoops trace ≤ 2 →
        total slept trace ≤ stuckTimeout timeout + 30 * waitLoops trace) := by
  obtain ⟨_, ends, loops, polls⟩ :=
    waits_runDkg enough rotationId false now le_rfl held timely run
  have few : total entersWait trace ≤ n + 11 := loops
  have bounded : SgxReached trace →
      total slept trace ≤ waitLoops trace * (timeout + 30) := by
    intro reached
    obtain ⟨_, _, _, polls⟩ :=
      waits_runDkg enough rotationId true now le_rfl held (timely_reached timely reached) run
    rwa [funext fun event => (slept_eq event).1]
  refine ⟨ends, ?_, ?_, bounded, ?_⟩
  · unfold waitLoops
    omega
  · rw [total_slept]
    exact Nat.add_le_add_left polls _
  · intro reached few
    have within := bounded reached
    have shared : waitLoops trace * timeout ≤ stuckTimeout timeout := by
      unfold stuckTimeout
      calc waitLoops trace * timeout ≤ 2 * timeout := Nat.mul_le_mul_right timeout few
        _ ≤ timeout * 22 / 10 := by omega
    rw [Nat.mul_add] at within
    omega

section Samples

def waitingClient : DKGClient 2 where
  group :=
    { nodeIdsDkg := fun index => 10 + index
      distinct := injective_ten }
  nodeIdDkg := ⟨0, Nat.zero_lt_two⟩
  schainName := "chain"
  groupIndex := ['g']
  dkgContractAddress := ['d']
  complaintErrorEventHash := ['c']
  publicKeys := []
  ethKeyName := "key"
  polyName := "poly"
  blsName := "bls"
  rotationId := 0
  dkgTimeout := 120

/-- The other node never broadcasts, the complaint about it is accepted, and the channel
is closed only after three waits. -/
def silentNode (now : Int) : (query : DkgQuery) → Except PyError query.Reply
  | .getChannelStartedTime | .getAlrightStartedTime => .ok 0
  | .getLatestBlockTimestamp => .ok now
  | .getDkgTimeout => .ok 120
  | .getTimeOfLastSuccessfulDkg => .ok 1
  | .getChannelStartedBlock | .getLatestBlockNumber => .ok 5
  | .getRotationCounter | .getNumberOfCompleted => .ok 0
  | .getNodesForSchain => .ok [⟨10, []⟩, ⟨11, []⟩]
  | .getBlock _ => .ok ⟨[]⟩
  | .getComplaintData => .ok (10, 11)
  | .isChannelOpened => .ok (decide (now < 390))
  | .isNodeBroadcasted _ | .isComplaintPossible .. => .ok true
  | .isEveryoneBroadcasted | .isLastDkgSuccessful => .ok false
  | .complaint .. => .ok ⟨some [{ topics := some [['f']], data := none }]⟩
  | .sleep _ => .ok ()
  | _ => .error .valueError

@[irreducible] def silentRun :
    Trace dkgInterface × Outcome PyError DKGResult × DKGClient 2 :=
  (runDkg 7 0 waitingClient).clocked slept silentNode 0

theorem silentRun_runs : Program.Runs (runDkg 7 0 waitingClient) silentRun.1 silentRun.2 := by
  unfold silentRun
  exact Program.runs_clocked _ _ _

theorem silentRun_timely (reached : Bool) :
    (chainClock reached 120).Timely 0 silentRun.1 := by
  unfold silentRun
  apply Program.timely_clocked _ _ le_rfl
  intro now query late
  cases query <;> trivial

theorem silentRun_sleeps :
    total slept silentRun.1 = 390 ∧ waitLoops silentRun.1 = 3 ∧
      silentRun.2.1 = .value ⟨.FAILED, .BROADCAST_VERIFICATION, none⟩ := by
  decide +kernel

theorem silentRun_startsWithChannel : StartsWithChannel 0 silentRun.1 := by
  intro started member
  unfold silentRun at member
  obtain ⟨time, answered⟩ := Program.mem_clocked member
  exact Except.ok.inj answered

/-- Three waits overrun the budget, where no call fails and SGX is not called. -/
theorem runDkg_overruns :
    ¬ ∀ (n fuel timeout rotationId : Nat) (client client' : DKGClient n) (now : Int)
      (trace : Trace dkgInterface) (outcome : Outcome PyError DKGResult),
      timeout + 30 < 30 * fuel → client.dkgTimeout = timeout →
        (chainClock true timeout).Timely now trace → StartsWithChannel now trace →
        Program.Runs (runDkg fuel rotationId client) trace (outcome, client') →
        total slept trace ≤ stuckTimeout timeout + 30 * waitLoops trace := by
  intro claimed
  have within := claimed 2 7 120 0 waitingClient silentRun.2.2 0 silentRun.1 silentRun.2.1
    (by decide) rfl (silentRun_timely true) silentRun_startsWithChannel silentRun_runs
  rw [silentRun_sleeps.1, silentRun_sleeps.2.1] at within
  revert within
  decide

/-- The bound of three waits is reached by the sample up to the pauses. -/
theorem runDkg_sleeps_silent :
    silentRun.2.1 ≠ .running ∧ total slept silentRun.1 ≤
      total retried silentRun.1 + waitLoops silentRun.1 * (120 + 30) := by
  have enough : 120 + 30 < 30 * 7 := by decide
  obtain ⟨ends, _, within, _⟩ :=
    runDkg_sleeps enough rfl (silentRun_timely false) silentRun_runs
  exact ⟨ends, within⟩

end Samples

end SkaleAdmin.Dkg
