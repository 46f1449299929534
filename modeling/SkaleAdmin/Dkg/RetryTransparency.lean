import SkaleAdmin.Library.BreakingOff
import SkaleAdmin.Dkg.VectorAgreement

/-! What the retries of the SGX requests leave. -/

namespace SkaleAdmin.Dkg

open Interaction PyText
open Interaction.Program (Runs)
open Interaction.Procedure (BreaksOff Silent brokenOff_reply brokenOff_error silent_pure
  silent_raise silent_modify silent_bind breaksOff_invoke breaksOff_bind breaksOff_bind_silent
  breaksOff_attempt)

abbrev SgxAnswers := (query : DkgQuery) → Except PyError query.Reply

def DkgQuery.isSgx : DkgQuery → Bool
  | generateDkgPoly _ | getVerificationVector _ | getSecretKeyContributionV2 ..
  | verifySecretShareV2 .. | getBlsPublicKey _ | createBlsPrivateKeyV2 ..
  | calculateAllBlsPublicKeys _ | complaintResponse .. => true
  | _ => false

def PyError.isUnreachable : PyError → Bool
  | sgxUnreachableError _ => true
  | _ => false

/-- SGX is unreachable `failures` times, and all other calls are answered by `sgx`. -/
structure Interrupted (sgx : SgxAnswers) (failures : Nat) (trace : Trace dkgInterface) :
    Prop where
  counted : trace.countP (fun event => event.fails PyError.isUnreachable) = failures
  calls : ∀ event ∈ trace, event.fails PyError.isUnreachable = true →
    event.query.isSgx = true
  answered : ∀ event ∈ trace, event.fails PyError.isUnreachable = false →
    event.answer = sgx event.query

section Traces

variable {sgx : SgxAnswers} {front back trace : Trace dkgInterface} {failures : Nat}

theorem Interrupted.split (interrupted : Interrupted sgx failures (front ++ back)) :
    ∃ first later, first + later = failures ∧ Interrupted sgx first front ∧
      Interrupted sgx later back := by
  refine ⟨_, _, List.countP_append.symm.trans interrupted.counted, ⟨rfl, ?_, ?_⟩,
    ⟨rfl, ?_, ?_⟩⟩
  · exact fun event member => interrupted.calls event (List.mem_append_left _ member)
  · exact fun event member => interrupted.answered event (List.mem_append_left _ member)
  · exact fun event member => interrupted.calls event (List.mem_append_right _ member)
  · exact fun event member => interrupted.answered event (List.mem_append_right _ member)

theorem Interrupted.isSound (interrupted : Interrupted sgx 0 trace) :
    Trace.IsSound PyError.isUnreachable trace := by
  intro event member
  have none := List.countP_eq_zero.mp interrupted.counted event member
  simpa using none

theorem Interrupted.answeredBy (interrupted : Interrupted sgx failures trace)
    (sound : Trace.IsSound PyError.isUnreachable trace) : Trace.AnsweredBy sgx trace :=
  fun event member => interrupted.answered event member (sound event member)

theorem Interrupted.eq_zero (interrupted : Interrupted sgx failures trace)
    (sound : Trace.IsSound PyError.isUnreachable trace) : failures = 0 := by
  rw [← interrupted.counted, List.countP_eq_zero]
  intro event member
  rw [sound event member]
  exact Bool.false_ne_true

theorem Interrupted.eq_one {query : DkgQuery} {error : PyError}
    (interrupted : Interrupted sgx failures (front ++ [⟨query, .error error⟩]))
    (sound : Trace.IsSound PyError.isUnreachable front)
    (known : error.isUnreachable = true) : failures = 1 := by
  obtain ⟨first, later, rfl, frontInterrupted, lastInterrupted⟩ := interrupted.split
  rw [frontInterrupted.eq_zero sound, ← lastInterrupted.counted]
  exact congrArg (0 + ·) (List.countP_singleton.trans (if_pos known))

theorem Interrupted.after_sleep {seconds : Nat} {answer : Except PyError Unit}
    (interrupted : Interrupted sgx failures (⟨.sleep seconds, answer⟩ :: back)) :
    Interrupted sgx failures back := by
  have slept : Trace.IsSound PyError.isUnreachable
      [(⟨.sleep seconds, answer⟩ : Event dkgInterface)] := by
    intro event member
    rw [List.mem_singleton.mp member]
    apply Bool.eq_false_iff.mpr
    intro fails
    cases interrupted.calls ⟨.sleep seconds, answer⟩ List.mem_cons_self fails
  have whole : Interrupted sgx failures ([⟨.sleep seconds, answer⟩] ++ back) := interrupted
  obtain ⟨pause, later, rfl, pauseInterrupted, rest⟩ := whole.split
  rw [pauseInterrupted.eq_zero slept, Nat.zero_add]
  exact rest

end Traces

section Retry

variable {σ κ α : Type} {func : DkgM σ α} {view : σ → κ} {sgx : SgxAnswers}
  {state first last : σ} {result : α} {trace : Trace dkgInterface}
  {outcome : Outcome PyError α} {failures : Nat}

theorem attempt_of_interrupted (breaks : BreaksOff PyError.isUnreachable view func)
    (succeeds : ∃ trace, Trace.AnsweredBy sgx trace ∧
      Runs (func state) trace (.value result, first))
    (run : Runs (func state) trace (outcome, last))
    (interrupted : Interrupted sgx failures trace) :
    failures = 0 ∧ outcome = .value result ∧ last = first ∨
      failures = 1 ∧ (∃ error, error.isUnreachable = true ∧ outcome = .raised error) ∧
        view last = view state := by
  rcases breaks run with ⟨sound, _⟩ | ⟨front, query, error, rfl, sound, known, rfl, kept⟩
  · obtain ⟨answered, isAnswered, ran⟩ := succeeds
    have same := runs_of_answers ran isAnswered run (interrupted.answeredBy sound)
    cases same
    exact .inl ⟨interrupted.eq_zero sound, rfl, rfl⟩
  · exact .inr ⟨interrupted.eq_one sound known, ⟨error, known, rfl⟩, kept⟩

/-- As long as the attempts suffice, the retries end as the first attempt would have. -/
theorem retry_of_interrupted (breaks : BreaksOff PyError.isUnreachable view func)
    {start : σ} (succeeds : ∀ state, view state = view start →
      ∃ trace, Trace.AnsweredBy sgx trace ∧ Runs (func state) trace (.value result, first))
    {retries : Nat} (enough : failures ≤ retries) (seen : view state = view start)
    (interrupted : Interrupted sgx failures trace)
    (run : Runs (retryUnreachable func retries state) trace (outcome, last)) :
    outcome = .value result ∧ last = first := by
  induction retries generalizing state trace failures with
  | zero =>
      obtain rfl : failures = 0 := Nat.le_zero.mp enough
      have unbroken : ∀ {front middle ended}, Interrupted sgx 0 front →
          Runs (func state) front (ended, middle) →
            ended = .value result ∧ middle = first := by
        intro front middle ended sound body
        rcases attempt_of_interrupted breaks (succeeds state seen) body sound with
          ⟨_, same⟩ | ⟨absurd, _⟩
        · exact same
        · cases absurd
      rcases Procedure.runs_attempt_iff.mp run with
        ⟨_, rfl, body⟩ | ⟨_, _, _, front, back, rfl, _, body, _⟩ | ⟨_, rfl, _, body⟩ |
        ⟨rfl, body⟩
      · exact unbroken interrupted body
      · obtain ⟨none, _, sum, frontInterrupted, _⟩ := interrupted.split
        obtain rfl : none = 0 := Nat.eq_zero_of_add_eq_zero_right sum
        cases (unbroken frontInterrupted body).1
      · exact unbroken interrupted body
      · exact unbroken interrupted body
  | succ retries ih =>
      rcases DKGClient.runs_retryUnreachable_succ run with
        ⟨body, reached⟩ | ⟨message, answer, middle, front, back, rfl, body, later⟩
      · rcases attempt_of_interrupted breaks (succeeds state seen) body interrupted with
          ⟨_, rfl, rfl⟩ | ⟨_, ⟨error, known, rfl⟩, _⟩
        · exact ⟨rfl, rfl⟩
        · cases error <;> cases known
          exact absurd rfl (reached _)
      · obtain ⟨one, others, rfl, frontInterrupted, rest⟩ := interrupted.split
        rcases attempt_of_interrupted breaks (succeeds state seen) body frontInterrupted with
          ⟨_, absurd, _⟩ | ⟨rfl, _, kept⟩
        · cases absurd
        · have fewer : others ≤ retries := by omega
          exact ih fewer (kept.trans seen) rest.after_sleep later

end Retry

/-! ### The operations -/

variable {n : Nat}

/-- The methods of the client that are wrapped. -/
inductive SgxOperation (n : Nat) where
  | generatePolynomial (polyName : String)
  | verificationVector
  | secretKeyContribution
  | verification (fromNode : Fin n)
  | isBlsKeyGenerated
  | generateBlsKey
  | fetchBlsPublicKey
  | getBlsPublicKeys
  | getComplaintResponse (toNodeIndex : Nat)

namespace SgxOperation

def Result : SgxOperation n → Type
  | generatePolynomial _ => DkgPolyStatus
  | verificationVector => List G2Point
  | secretKeyContribution => List KeyShare
  | verification _ | isBlsKeyGenerated => Bool
  | generateBlsKey => Text
  | fetchBlsPublicKey => Unit
  | getBlsPublicKeys => List (List Text)
  | getComplaintResponse _ => G2Point × Text × List (List Text)

def method : (operation : SgxOperation n) → ClientM n operation.Result
  | generatePolynomial polyName => DKGClient.generatePolynomial polyName
  | verificationVector => DKGClient.verificationVector
  | secretKeyContribution => DKGClient.secretKeyContribution
  | verification fromNode => DKGClient.verification fromNode
  | isBlsKeyGenerated => DKGClient.isBlsKeyGenerated
  | generateBlsKey => DKGClient.generateBlsKey
  | fetchBlsPublicKey => DKGClient.fetchBlsPublicKey
  | getBlsPublicKeys => DKGClient.getBlsPublicKeys
  | getComplaintResponse toNodeIndex => DKGClient.getComplaintResponse toNodeIndex

end SgxOperation

/-- However often a method that would succeed finds SGX unreachable before, it returns the
same and leaves the same client, as long as the attempts suffice. -/
def Transparent {α : Type} (method : ClientM n α) (client : DKGClient n) : Prop :=
  ∀ (sgx : SgxAnswers), (∀ query message, sgx query ≠ .error (.sgxUnreachableError message)) →
    ∀ failures < RETRY_ATTEMPTS, ∀ (immediate trace : Trace dkgInterface) (result : α)
      (first last : DKGClient n) (outcome : Outcome PyError α),
      Interrupted sgx 0 immediate →
      Runs (method client) immediate (.value result, first) →
      Interrupted sgx failures trace → Runs (method client) trace (outcome, last) →
      outcome = .value result ∧ last = first

section Bodies

variable {κ α : Type} {func : ClientM n α} {client : DKGClient n}

theorem transparent_of_breaksOff (view : DKGClient n → κ)
    (breaks : BreaksOff PyError.isUnreachable view func)
    (again : ∀ other, view other = view client → ∀ trace result first,
      Runs (func client) trace (.value result, first) →
      Runs (func other) trace (.value result, first)) :
    Transparent (sgxUnreachableRetry func) client := by
  intro sgx reachable failures enough immediate trace result first last outcome
    uninterrupted immediateRun interrupted run
  have succeeded : Runs (func client) immediate (.value result, first) := by
    rcases DKGClient.runs_retryUnreachable_succ immediateRun with
      ⟨body, _⟩ | ⟨message, answer, middle, front, back, rfl, body, _⟩
    · exact body
    · obtain ⟨none, _, sum, frontInterrupted, _⟩ := uninterrupted.split
      obtain rfl : none = 0 := Nat.eq_zero_of_add_eq_zero_right sum
      rcases breaks body with ⟨_, harmless⟩ | ⟨front, query, error, rfl, sound, known, _⟩
      · cases harmless _ rfl
      · cases frontInterrupted.eq_one sound known
  apply retry_of_interrupted breaks _ (Nat.le_of_lt_succ enough) rfl interrupted run
  intro other same
  exact ⟨immediate, uninterrupted.answeredBy uninterrupted.isSound,
    again other same immediate result first succeeded⟩

theorem transparent_of_unchanged (breaks : BreaksOff PyError.isUnreachable id func) :
    Transparent (sgxUnreachableRetry func) client := by
  apply transparent_of_breaksOff id breaks
  rintro other rfl trace result first run
  exact run

section Steps

variable {view : DKGClient n → κ} {β : Type}

theorem silent_getOr {error : PyError} (harmless : error.isUnreachable = false)
    (option : Option α) :
    Silent PyError.isUnreachable (getOr error option : ClientM n α) := by
  cases option with
  | some value => exact silent_pure value
  | none => exact silent_raise harmless

theorem silent_liftExcept {result : Except PyError α}
    (apart : ∀ message, result ≠ .error (.sgxUnreachableError message)) :
    Silent PyError.isUnreachable (DKGClient.liftExcept result : ClientM n α) := by
  cases result with
  | ok value => exact silent_pure value
  | error error =>
      apply silent_raise
      cases error with
      | sgxUnreachableError message => exact absurd rfl (apart message)
      | _ => rfl

theorem breaksOff_read_bind {next : DKGClient n → ClientM n β}
    (rest : ∀ client, BreaksOff PyError.isUnreachable view (next client)) :
    BreaksOff PyError.isUnreachable view (Procedure.read id >>= next) := by
  intro state state' trace outcome run
  rw [Procedure.read_bind_apply] at run
  exact rest _ run

theorem breaksOff_invoke_bind {query : DkgQuery} {next : query.Reply → ClientM n β}
    (rest : ∀ reply, BreaksOff PyError.isUnreachable view (next reply)) :
    BreaksOff PyError.isUnreachable view (invoke query >>= next) := by
  refine breaksOff_bind (breaksOff_invoke query) ?_ rest
  apply Procedure.within_invoke
  exact fun answer state => ⟨fun _ _ => trivial, rfl⟩

end Steps

end Bodies

section Operations

variable {client : DKGClient n}

theorem generatePolynomial_transparent (polyName : String) :
    Transparent (DKGClient.generatePolynomial polyName) client := by
  apply transparent_of_breaksOff fun client : DKGClient n => { client with polyName }
  · refine breaksOff_bind (silent_modify _).breaksOff ?_ fun _ => breaksOff_invoke _
    apply Procedure.within_modify
    exact fun client => ⟨nofun, rfl⟩
  · intro other same trace result first run
    rw [Procedure.modify_bind_apply] at run ⊢
    rw [same]
    exact run

theorem verificationVector_transparent :
    Transparent (DKGClient.verificationVector) client := by
  apply transparent_of_unchanged
  apply breaksOff_read_bind
  intro client
  apply breaksOff_bind_silent (breaksOff_invoke _)
  intro vector
  exact silent_bind (silent_modify _) fun _ =>
    silent_liftExcept (convertG2PointsToArray_ne _)

theorem secretKeyContribution_transparent :
    Transparent (DKGClient.secretKeyContribution) client := by
  apply transparent_of_unchanged
  apply breaksOff_read_bind
  intro client
  apply breaksOff_bind_silent (breaksOff_invoke _)
  intro sent
  refine silent_bind (silent_modify _) fun _ => ?_
  exact silent_bind (silent_modify _) fun _ => silent_getOr rfl _

theorem verification_transparent (fromNode : Fin n) :
    Transparent (DKGClient.verification fromNode) client := by
  apply transparent_of_unchanged
  apply breaksOff_read_bind
  exact fun client => breaksOff_invoke _

theorem isBlsKeyGenerated_transparent :
    Transparent (DKGClient.isBlsKeyGenerated) client := by
  apply transparent_of_unchanged
  apply breaksOff_read_bind
  intro client
  apply breaksOff_attempt
  · exact breaksOff_bind_silent (breaksOff_invoke _) fun _ => silent_pure _
  · intro error known
    cases error <;> first | rfl | cases known
  · intro error clause handled
    rw [DKGClient.absentKey_cases handled]
    exact silent_pure _

theorem fetchBlsPublicKeyOnce_breaksOff :
    BreaksOff PyError.isUnreachable id
      (DKGClient.fetchBlsPublicKeyOnce : ClientM n Unit) := by
  apply breaksOff_read_bind
  intro client
  exact breaksOff_bind_silent (breaksOff_invoke _) fun _ => silent_modify _

theorem generateBlsKey_transparent :
    Transparent (DKGClient.generateBlsKey) client := by
  apply transparent_of_unchanged
  apply breaksOff_read_bind
  intro client
  apply breaksOff_invoke_bind
  intro blsPrivateKey
  exact breaksOff_bind_silent fetchBlsPublicKeyOnce_breaksOff fun _ => silent_pure _

theorem fetchBlsPublicKey_transparent :
    Transparent (DKGClient.fetchBlsPublicKey) client :=
  transparent_of_unchanged fetchBlsPublicKeyOnce_breaksOff

theorem getComplaintResponse_transparent (toNodeIndex : Nat) :
    Transparent (DKGClient.getComplaintResponse toNodeIndex) client := by
  apply transparent_of_unchanged
  apply breaksOff_read_bind
  intro client
  refine breaksOff_bind (silent_getOr rfl _).breaksOff ?_ fun index => ?_
  · exact within_getOr _ _
  · apply breaksOff_bind_silent (breaksOff_invoke _)
    intro response
    exact silent_bind (silent_liftExcept (DKGClient.convertShare_ne _)) fun _ =>
      silent_pure _

end Operations

/-! ### A conversion in place -/

section Converting

theorem length_convertG2PointToHex {symbol : Char} {part : Text}
    (converted : convertG2PointToHex [[symbol]] = some part) : 64 ≤ part.length := by
  simp only [convertG2PointToHex, convertCoordToHex, List.mapM_cons, List.mapM_nil,
    Option.bind_eq_bind, Option.map_eq_some_iff, Option.bind_eq_some_iff] at converted
  obtain ⟨words, ⟨word, ⟨value, _, rfl⟩, rest, ended, same⟩, rfl⟩ := converted
  cases ended
  cases same
  simp
  omega

theorem length_convertG2ArrayToHex {text again : Text}
    (converted : convertG2ArrayToHex (.hex text) = some again) :
    64 * text.length ≤ again.length := by
  obtain ⟨parts, each, rfl⟩ := Option.map_eq_some_iff.mp converted
  clear converted
  change (text.map fun symbol => [[symbol]]).mapM convertG2PointToHex = some parts at each
  induction text generalizing parts with
  | nil => simp
  | cons symbol rest ih =>
      simp only [List.map_cons, List.mapM_cons, Option.bind_eq_bind,
        Option.bind_eq_some_iff] at each
      obtain ⟨part, first, others, later, same⟩ := each
      cases same
      have here := length_convertG2PointToHex first
      have there := ih others later
      rw [List.length_cons, List.flatten_cons, List.length_append]
      omega

theorem convertG2ArrayToHex_eq_nil_iff {text : Text} :
    convertG2ArrayToHex (.hex text) = some [] ↔ text = [] := by
  constructor
  · intro converted
    have longer := length_convertG2ArrayToHex converted
    rw [List.length_nil] at longer
    exact List.eq_nil_of_length_eq_zero (by omega)
  · rintro rfl
    rfl

end Converting

namespace DKGClient

/-- The client but for the own vector, of which only matters whether it is empty. -/
def unconverted (client : DKGClient n) : DKGClient n × Bool :=
  (storeVerificationVector client.nodeIdDkg (.hex []) client,
    decide (convertG2ArrayToHex
      (client.incomingVerificationVector client.nodeIdDkg) = some []))

theorem unconverted_store {client : DKGClient n} {own : Text}
    (converted : convertG2ArrayToHex
      (client.incomingVerificationVector client.nodeIdDkg) = some own) :
    (storeVerificationVector client.nodeIdDkg (.hex own) client).unconverted =
      client.unconverted := by
  unfold unconverted
  rw [converted]
  simp only [storeVerificationVector, Function.update_idem, Function.update_self,
    convertG2ArrayToHex_eq_nil_iff, Option.some.injEq]

theorem passVectors_breaksOff :
    BreaksOff PyError.isUnreachable unconverted
      (passVectors : ClientM n (List (List Text))) := by
  intro client client' trace outcome run
  cases converted : convertG2ArrayToHex
      (client.incomingVerificationVector client.nodeIdDkg) with
  | none =>
      obtain ⟨rfl, rfl⟩ := passVectors_fails converted run
      refine .inl ⟨Trace.isSound_nil, ?_⟩
      rintro error ⟨⟩
      rfl
  | some own =>
      obtain ⟨rfl, ended⟩ := passVectors_passes converted run
      rcases ended with ⟨keys, rfl, rfl⟩ | ⟨error, rfl, rfl⟩
      · exact brokenOff_reply
      · exact brokenOff_error (unconverted_store converted)

theorem getBlsPublicKeys_transparent {client : DKGClient n}
    (empty : ∀ own, convertG2ArrayToHex
      (client.incomingVerificationVector client.nodeIdDkg) = some own → own = []) :
    Transparent getBlsPublicKeys client := by
  apply transparent_of_breaksOff unconverted passVectors_breaksOff
  intro other same trace result first run
  cases converted : convertG2ArrayToHex
      (client.incomingVerificationVector client.nodeIdDkg) with
  | none => cases (passVectors_fails converted run).2
  | some own =>
      obtain rfl := empty own converted
      have stored : storeVerificationVector other.nodeIdDkg (.hex []) other =
          storeVerificationVector client.nodeIdDkg (.hex []) client :=
        congrArg Prod.fst same
      have emptied : decide (convertG2ArrayToHex
          (other.incomingVerificationVector other.nodeIdDkg) = some []) = true :=
        (congrArg Prod.snd same).trans (decide_eq_true converted)
      have otherConverted := of_decide_eq_true emptied
      unfold passVectors at run ⊢
      rw [Procedure.read_bind_apply] at run ⊢
      simp only [id, converted, otherConverted, getOr_some, Procedure.pure_bind_apply,
        Procedure.modify_bind_apply, Procedure.read_bind_apply] at run ⊢
      rw [stored]
      exact run

theorem runs_passVectors_none {client : DKGClient n}
    (unreadable : convertG2ArrayToHex
      (client.incomingVerificationVector client.nodeIdDkg) = none) :
    Runs (passVectors client) [] (.raised .valueError, client) := by
  unfold passVectors
  rw [Procedure.read_bind_apply]
  simp only [id, unreadable, getOr_none, Procedure.raise_bind_apply]
  exact Procedure.runs_raise_iff.mpr ⟨rfl, rfl, rfl⟩

theorem runs_retryUnreachable_valueError {σ α : Type} {func : DkgM σ α} {retries : Nat}
    {state state' : σ} {trace : Trace dkgInterface}
    (raised : Runs (func state) trace (.raised .valueError, state')) :
    Runs (retryUnreachable func retries state) trace (.raised .valueError, state') := by
  cases retries with
  | zero =>
      exact Procedure.runs_attempt_iff.mpr (.inr (.inr (.inl ⟨_, rfl, rfl, raised⟩)))
  | succ retries =>
      exact Procedure.runs_attempt_iff.mpr (.inr (.inr (.inl ⟨_, rfl, rfl, raised⟩)))

def keylessSgx : SgxAnswers
  | .calculateAllBlsPublicKeys _ => .ok []
  | .sleep _ => .ok ()
  | _ => .error .attributeError

theorem keylessSgx_reached (query : DkgQuery) (message : String) :
    keylessSgx query ≠ .error (.sgxUnreachableError message) := by
  cases query <;> nofun

theorem interrupted_nil : Interrupted keylessSgx 0 [] :=
  ⟨rfl, nofun, nofun⟩

theorem interrupted_immediate {vectors : List VerificationVector} :
    Interrupted keylessSgx 0 [⟨.calculateAllBlsPublicKeys vectors, .ok []⟩] := by
  refine ⟨rfl, ?_, ?_⟩
  · intro event member fails
    rw [List.mem_singleton.mp member] at fails
    cases fails
  · intro event member _
    rw [List.mem_singleton.mp member]
    rfl

theorem interrupted_again {vectors : List VerificationVector} {message : String}
    {seconds : Nat} {back : Trace dkgInterface} (rest : Interrupted keylessSgx 0 back) :
    Interrupted keylessSgx 1
      ([⟨.calculateAllBlsPublicKeys vectors, .error (.sgxUnreachableError message)⟩] ++
        ⟨.sleep seconds, .ok ()⟩ :: back) := by
  refine ⟨?_, ?_, ?_⟩
  · have none := rest.counted
    simp only [List.singleton_append, List.countP_cons, none]
    rfl
  · intro event member fails
    simp only [List.singleton_append, List.mem_cons] at member
    rcases member with rfl | rfl | member
    · rfl
    · cases fails
    · exact rest.calls event member fails
  · intro event member sound
    simp only [List.singleton_append, List.mem_cons] at member
    rcases member with rfl | rfl | member
    · cases sound
    · rfl
    · exact rest.answered event member sound

theorem not_transparent_of_converted {client : DKGClient n} {own : Text}
    (converted : convertG2ArrayToHex
      (client.incomingVerificationVector client.nodeIdDkg) = some own) (filled : own ≠ []) :
    ¬ Transparent getBlsPublicKeys client := by
  intro transparent
  obtain ⟨vectors, answered, failed⟩ := runs_passVectors converted
  have unreached := failed (.sgxUnreachableError "timed out")
  have concluded : ∀ {back outcome last}, Interrupted keylessSgx 0 back →
      Runs (retryUnreachable passVectors 12
        (storeVerificationVector client.nodeIdDkg (.hex own) client)) back (outcome, last) →
      outcome = .value [] ∧
        last = storeVerificationVector client.nodeIdDkg (.hex own) client := by
    intro back outcome last sound later
    exact transparent keylessSgx keylessSgx_reached 1 (by decide) _ _ [] _ last outcome
      interrupted_immediate (runs_retryUnreachable_answered (answered []))
      (interrupted_again sound) (runs_retryUnreachable_again unreached later)
  have held : (storeVerificationVector client.nodeIdDkg (.hex own)
      client).incomingVerificationVector client.nodeIdDkg = .hex own :=
    Function.update_self ..
  cases twice : convertG2ArrayToHex (.hex own) with
  | none =>
      rw [← held] at twice
      have ended := concluded interrupted_nil
        (runs_retryUnreachable_valueError (runs_passVectors_none twice))
      cases ended.1
  | some again =>
      have longer := length_convertG2ArrayToHex twice
      rw [← held] at twice
      obtain ⟨others, answeredAgain, _⟩ := runs_passVectors twice
      have ended := concluded interrupted_immediate
        (runs_retryUnreachable_answered (answeredAgain []))
      have vector := congrArg
        (fun client : DKGClient n => client.incomingVerificationVector client.nodeIdDkg)
        ended.2
      have same : again = own := by
        simpa [storeVerificationVector] using vector
      rw [same] at longer
      have positive := List.length_pos_of_ne_nil filled
      omega

end DKGClient

/-- An operation that is retried goes unnoticed but for `get_bls_public_keys`, which converts
its own vector again. -/
theorem transparent_iff (operation : SgxOperation n) (client : DKGClient n) :
    Transparent operation.method client ↔
      (operation = .getBlsPublicKeys → ∀ own, convertG2ArrayToHex
        (client.incomingVerificationVector client.nodeIdDkg) = some own → own = []) := by
  have holds {other : SgxOperation n} (apart : other ≠ .getBlsPublicKeys)
      (transparent : Transparent other.method client) :
      Transparent other.method client ↔ (other = .getBlsPublicKeys → ∀ own,
        convertG2ArrayToHex (client.incomingVerificationVector client.nodeIdDkg) = some own →
          own = []) :=
    iff_of_true transparent fun same => absurd same apart
  cases operation with
  | generatePolynomial polyName =>
      exact holds nofun (generatePolynomial_transparent polyName)
  | verificationVector => exact holds nofun verificationVector_transparent
  | secretKeyContribution => exact holds nofun secretKeyContribution_transparent
  | verification fromNode => exact holds nofun (verification_transparent fromNode)
  | isBlsKeyGenerated => exact holds nofun isBlsKeyGenerated_transparent
  | generateBlsKey => exact holds nofun generateBlsKey_transparent
  | fetchBlsPublicKey => exact holds nofun fetchBlsPublicKey_transparent
  | getComplaintResponse toNodeIndex =>
      exact holds nofun (getComplaintResponse_transparent toNodeIndex)
  | getBlsPublicKeys =>
      constructor
      · intro transparent _ own converted
        by_contra filled
        exact DKGClient.not_transparent_of_converted converted filled transparent
      · intro empty
        exact DKGClient.getBlsPublicKeys_transparent (empty rfl)

/-- A client that has been handed its own vector. -/
theorem getBlsPublicKeys_retried :
    ¬ Transparent (SgxOperation.getBlsPublicKeys.method) (pairMember 0) :=
  DKGClient.not_transparent_of_converted (pairMember_converted 0) (by decide +kernel)

end SkaleAdmin.Dkg
