import SkaleAdmin.Dkg.BroadcastFilter

/-! The events a filter returns are those of the receipts it was answered, and
no block below `first_unseen_block` is left with a transaction to look up. -/

namespace SkaleAdmin.Dkg

open Interaction PyText Program
open Interaction.Procedure (runs_invoke_iff runs_invoke_bind_iff within_invoke)

/-- The blocks and receipts as they stand after all growth; without
reorganisation every earlier answer agrees with them. -/
structure Chain where
  blocks : Nat → Block
  receipts : Text → Receipt
  channelStartedBlock : Nat

/-- An answer that agrees with the chain; every error does. -/
def Chain.Admits (chain : Chain) : Event dkgInterface → Prop
  | ⟨.getChannelStartedBlock, .ok reply⟩ => reply = chain.channelStartedBlock
  | ⟨.getBlock number, .ok reply⟩ => reply = chain.blocks number
  | ⟨.getTransactionReceipt hash, .ok reply⟩ => reply = chain.receipts hash
  | _ => True

def DkgQuery.isScan : DkgQuery → Bool
  | .getChannelStartedBlock | .getLatestBlockNumber | .getBlock _
  | .getTransactionReceipt _ => true
  | _ => false

namespace Filter

def movedTo (filter : Filter) (block : Int) : Filter :=
  { filter with firstUnseenBlock := block }

theorem movedTo_movedTo (filter : Filter) (block next : Int) :
    (filter.movedTo block).movedTo next = filter.movedTo next := rfl

def eventOf (filter : Filter) : Event dkgInterface → Option DKGEvent
  | ⟨.getTransactionReceipt _, .ok receipt⟩ =>
      if filter.checkEvent receipt then (filter.parseEvent receipt).toOption
      else none
  | _ => none

/-- `tx` was sent to the DKG contract and has the hash `hash`. -/
def Sent (filter : Filter) (tx : Tx) (hash : Text) : Prop :=
  tx.toAddress = some filter.dkgContractAddress ∧ tx.hash = some hash ∧
    hash ≠ []

/-- The receipt of `hash` was looked up, and when it was found and accepted
its event could be parsed. -/
inductive Settled (filter : Filter) (trace : Trace dkgInterface)
    (hash : Text) : Prop
  | unknown (asked :
      ⟨.getTransactionReceipt hash, .error .transactionNotFound⟩ ∈ trace)
  | found (receipt : Receipt)
      (asked : ⟨.getTransactionReceipt hash, .ok receipt⟩ ∈ trace)
      (parsed : filter.checkEvent receipt = true →
        ∃ event, filter.parseEvent receipt = .ok event)

theorem Settled.mono {filter : Filter} {trace longer : Trace dkgInterface}
    {hash : Text} (settled : filter.Settled trace hash)
    (contained : trace ⊆ longer) : filter.Settled longer hash := by
  cases settled with
  | unknown asked => exact .unknown (contained asked)
  | found receipt asked parsed => exact .found receipt (contained asked) parsed

theorem runs_collectTx_cases {tx : Tx} {scan scan' : Scan}
    {trace : Trace dkgInterface} {outcome : Outcome PyError Unit}
    (run : Runs (collectTx tx scan) trace (outcome, scan')) :
    (trace = [] ∧ outcome = .value () ∧ scan' = scan ∧
      ∀ hash, ¬ scan.1.Sent tx hash) ∨
    ∃ hash, (∀ other, scan.1.Sent tx other → other = hash) ∧
      ((∃ error, trace = [⟨.getTransactionReceipt hash, .error error⟩] ∧
          outcome = .raised error ∧ scan' = scan) ∨
        ∃ receipt : Receipt,
          trace = [⟨.getTransactionReceipt hash, .ok receipt⟩] ∧
          ((scan.1.checkEvent receipt = false ∧ outcome = .value () ∧
              scan' = scan) ∨
            (∃ event, scan.1.checkEvent receipt = true ∧
              scan.1.parseEvent receipt = .ok event ∧ outcome = .value () ∧
              scan' = (scan.1, scan.2 ++ [event])) ∨
            (∃ error, scan.1.checkEvent receipt = true ∧
              scan.1.parseEvent receipt = .error error ∧
              outcome = .raised error ∧ scan' = scan))) := by
  unfold collectTx at run
  rw [Procedure.read_bind_apply] at run
  by_cases addressed : tx.toAddress = some scan.1.dkgContractAddress
  · simp only [addressed, bne_self_eq_false, Bool.false_eq_true,
      if_false] at run
    cases hashOf : tx.hash with
    | none =>
        simp only [hashOf, Procedure.runs_pure_iff] at run
        obtain ⟨rfl, rfl, rfl⟩ := run
        refine .inl ⟨rfl, rfl, rfl, ?_⟩
        intro hash sent
        simpa [hashOf] using sent.2.1
    | some hash =>
        cases hash with
        | nil =>
            simp only [hashOf, Procedure.runs_pure_iff] at run
            obtain ⟨rfl, rfl, rfl⟩ := run
            refine .inl ⟨rfl, rfl, rfl, ?_⟩
            intro hash sent
            have same : hash = [] := by simpa [hashOf] using sent.2.1.symm
            exact sent.2.2 same
        | cons head tail =>
            simp only [hashOf] at run
            refine .inr ⟨head :: tail, ?_, ?_⟩
            · intro other sent
              simpa [hashOf] using sent.2.1.symm
            rcases runs_invoke_bind_iff.mp run with
              ⟨receipt, rest, rfl, continued⟩ | ⟨error, rfl, rfl, rfl⟩
            · refine .inr ⟨receipt, ?_⟩
              cases accepted : scan.1.checkEvent receipt with
              | false =>
                  simp only [accepted, Bool.not_false, if_true,
                    Procedure.runs_pure_iff] at continued
                  obtain ⟨rfl, rfl, rfl⟩ := continued
                  exact ⟨rfl, .inl ⟨rfl, rfl, rfl⟩⟩
              | true =>
                  cases parsed : scan.1.parseEvent receipt with
                  | ok event =>
                      simp only [accepted, parsed, Bool.not_true,
                        Bool.false_eq_true, if_false,
                        Procedure.runs_modify_iff] at continued
                      obtain ⟨rfl, rfl, rfl⟩ := continued
                      exact ⟨rfl, .inr (.inl ⟨event, rfl, rfl, rfl, rfl⟩)⟩
                  | error error =>
                      simp only [accepted, parsed, Bool.not_true,
                        Bool.false_eq_true, if_false,
                        Procedure.runs_raise_iff] at continued
                      obtain ⟨rfl, rfl, rfl⟩ := continued
                      exact ⟨rfl, .inr (.inr ⟨error, rfl, rfl, rfl, rfl⟩)⟩
            · exact .inl ⟨error, rfl, rfl, rfl⟩
  · simp only [bne_iff_ne, ne_eq, addressed, not_false_eq_true, if_true,
      Procedure.runs_pure_iff] at run
    obtain ⟨rfl, rfl, rfl⟩ := run
    exact .inl ⟨rfl, rfl, rfl, fun hash sent => addressed sent.1⟩

theorem eventOf_movedTo (filter : Filter) (block : Int) :
    (filter.movedTo block).eventOf = filter.eventOf := rfl

theorem settled_movedTo {filter : Filter} {block : Int}
    {trace : Trace dkgInterface} {hash : Text} :
    (filter.movedTo block).Settled trace hash ↔ filter.Settled trace hash := by
  constructor
  · intro settled
    cases settled with
    | unknown asked => exact .unknown asked
    | found receipt asked parsed => exact .found receipt asked parsed
  · intro settled
    cases settled with
    | unknown asked => exact .unknown asked
    | found receipt asked parsed => exact .found receipt asked parsed

/-- A scan reads only the chain, and what is collected is what the answered
receipts hold. -/
def collected : Frame dkgInterface Scan where
  holds trace first last :=
    (∀ event ∈ trace, event.query.isScan = true) ∧
      (∃ block, last.1 = first.1.movedTo block) ∧
      last.2 = first.2 ++ trace.filterMap first.1.eventOf
  refl scan := ⟨by simp, ⟨scan.1.firstUnseenBlock, rfl⟩, by simp⟩
  trans := by
    intro front back first middle last frontCollected backCollected
    obtain ⟨frontScans, ⟨block, moved⟩, frontEvents⟩ := frontCollected
    obtain ⟨backScans, ⟨next, movedAgain⟩, backEvents⟩ := backCollected
    refine ⟨?_, ⟨next, ?_⟩, ?_⟩
    · intro event member
      rcases List.mem_append.mp member with inFront | inBack
      · exact frontScans event inFront
      · exact backScans event inBack
    · rw [movedAgain, moved, movedTo_movedTo]
    · rw [backEvents, frontEvents, moved, eventOf_movedTo,
        List.filterMap_append, List.append_assoc]

theorem collected_of_unread {event : Event dkgInterface} {scan : Scan}
    (scans : event.query.isScan = true)
    (unread : scan.1.eventOf event = none) :
    collected.holds [event] scan scan := by
  refine ⟨?_, ⟨scan.1.firstUnseenBlock, rfl⟩, ?_⟩
  · intro other member
    rw [List.mem_singleton.mp member]
    exact scans
  · rw [List.filterMap_cons_none unread, List.filterMap_nil, List.append_nil]

theorem collectTx_within_collected (tx : Tx) :
    (collectTx tx).Within collected := by
  intro scan scan' trace outcome run
  rcases runs_collectTx_cases run with
    ⟨rfl, _, rfl, _⟩ | ⟨hash, _, ⟨error, rfl, _, rfl⟩ | ⟨receipt, rfl, cases⟩⟩
  · exact collected.refl _
  · exact collected_of_unread rfl rfl
  · rcases cases with
      ⟨refused, _, rfl⟩ | ⟨event, accepted, parsed, _, rfl⟩ |
      ⟨error, accepted, parsed, _, rfl⟩
    · exact collected_of_unread rfl (by simp [eventOf, refused])
    · refine ⟨by simp [DkgQuery.isScan], ⟨scan.1.firstUnseenBlock, rfl⟩, ?_⟩
      simp [eventOf, accepted, parsed, Except.toOption]
    · exact collected_of_unread rfl
        (by simp [eventOf, accepted, parsed, Except.toOption])

theorem collectTxs_within_collected (txs : List Tx) :
    (collectTxs txs).Within collected := by
  induction txs with
  | nil => exact Procedure.within_pure ()
  | cons tx rest ih =>
      apply Procedure.within_bind _ fun _ => ih
      apply Procedure.within_attempt (collectTx_within_collected tx)
      intro error clause handled
      cases error <;> cases handled
      exact Procedure.within_pure ()

theorem collectBlocks_within_collected (blocks : List Nat) :
    (collectBlocks blocks).Within collected := by
  induction blocks with
  | nil => exact Procedure.within_pure ()
  | cons blockNumber rest ih =>
      apply Procedure.within_bind
      · exact within_invoke fun _ _ => collected_of_unread rfl rfl
      intro block
      apply Procedure.within_bind (collectTxs_within_collected _)
      intro _
      apply Procedure.within_bind _ fun _ => ih
      apply Procedure.within_modify
      intro scan
      exact ⟨by simp, ⟨_, rfl⟩, by simp⟩

theorem collectEvents_within_collected (fromChannelStartedBlock : Bool) :
    (collectEvents fromChannelStartedBlock).Within collected := by
  apply Procedure.within_bind (Procedure.within_read _)
  intro filter
  apply Procedure.within_bind
  · unfold startBlock
    split
    · exact within_invoke fun _ _ => collected_of_unread rfl rfl
    · exact Procedure.within_pure _
  intro first
  apply Procedure.within_bind
  · exact within_invoke fun _ _ => collected_of_unread rfl rfl
  intro currentBlock
  exact collectBlocks_within_collected _

theorem keepCollected_returning {error : PyError} {clause : DkgM Scan Unit}
    (handled : keepCollected error = some clause) :
    ∃ result, clause = pure result := by
  unfold keepCollected at handled
  split at handled
  · exact ⟨(), (Option.some.inj handled).symm⟩
  · cases handled

/-- A call of `get_events` is a run of the scan, and a call that returns hands
out the events of the receipts it was answered. -/
theorem runs_getEvents {fromChannelStartedBlock : Bool}
    {filter filter' : Filter} {trace : Trace dkgInterface}
    {outcome : Outcome PyError (List DKGEvent)}
    (run : Runs (getEvents fromChannelStartedBlock filter) trace
      (outcome, filter')) :
    ∃ ended events,
      Runs (collectEvents fromChannelStartedBlock (filter, [])) trace
        (ended, filter', events) ∧
      ∀ returned, outcome = .value returned →
        returned = trace.filterMap filter.eventOf := by
  have scanned : ∀ {front : Trace dkgInterface} {reached : Filter}
      {ended : Outcome PyError (Unit × List DKGEvent)},
      Runs (Procedure.withLocal []
        (Procedure.attempt (collectEvents fromChannelStartedBlock)
          keepCollected) filter) front (ended, reached) →
      ∃ inner events,
        Runs (collectEvents fromChannelStartedBlock (filter, [])) front
          (inner, reached, events) ∧
        ∀ result, ended = .value result →
          result.2 = front.filterMap filter.eventOf := by
    intro front reached ended local'
    obtain ⟨outer, events, attempted, rfl⟩ :=
      Procedure.runs_withLocal_iff.mp local'
    obtain ⟨inner, body, _⟩ := Procedure.runs_attempt_of_returning
      (fun _ _ => keepCollected_returning) attempted
    refine ⟨inner, events, body, ?_⟩
    intro result same
    have held := (collectEvents_within_collected _ body).2.2
    cases outer <;> cases same
    simpa using held
  unfold getEvents at run
  rcases Procedure.runs_bind_iff.mp run with
    ⟨result, middle, front, back, rfl, first, rest⟩ |
    ⟨error, rfl, first⟩ | ⟨rfl, first⟩
  · obtain ⟨rfl, rfl, rfl⟩ := Procedure.runs_pure_iff.mp rest
    rw [List.append_nil]
    obtain ⟨inner, events, body, held⟩ := scanned first
    refine ⟨inner, events, body, ?_⟩
    intro returned same
    cases same
    exact held result rfl
  · obtain ⟨inner, events, body, _⟩ := scanned first
    exact ⟨inner, events, body, fun _ same => by cases same⟩
  · obtain ⟨inner, events, body, _⟩ := scanned first
    exact ⟨inner, events, body, fun _ same => by cases same⟩

theorem getEvents_keeps_filter {fromChannelStartedBlock : Bool}
    {filter filter' : Filter} {trace : Trace dkgInterface}
    {outcome : Outcome PyError (List DKGEvent)}
    (run : Runs (getEvents fromChannelStartedBlock filter) trace
      (outcome, filter')) :
    ∃ block, filter' = filter.movedTo block := by
  obtain ⟨_, _, body, _⟩ := runs_getEvents run
  exact (collectEvents_within_collected _ body).2.1

theorem parseEvent_ne_transactionNotFound (filter : Filter) (receipt : Receipt) :
    filter.parseEvent receipt ≠ .error .transactionNotFound := by
  intro failed
  unfold parseEvent at failed
  rcases orRaise_bind_error failed with same | ⟨logs, _, failed⟩
  · cases same
  rcases orRaise_bind_error failed with same | ⟨log, _, failed⟩
  · cases same
  rcases orRaise_bind_error failed with same | ⟨data, _, failed⟩
  · cases same
  rcases orRaise_bind_error failed with same | ⟨topics, _, failed⟩
  · cases same
  rcases orRaise_bind_error failed with same | ⟨topic, _, failed⟩
  · cases same
  rcases orRaise_bind_error failed with same | ⟨nodeIndex, _, failed⟩
  · cases same
  cases failed

theorem getEvents_scans {fromChannelStartedBlock : Bool}
    {filter filter' : Filter} {trace : Trace dkgInterface}
    {outcome : Outcome PyError (List DKGEvent)}
    (run : Runs (getEvents fromChannelStartedBlock filter) trace
      (outcome, filter')) :
    ∀ event ∈ trace, event.query.isScan = true := by
  obtain ⟨_, _, body, _⟩ := runs_getEvents run
  exact (collectEvents_within_collected _ body).1

theorem collectTx_settles {tx : Tx} {scan scan' : Scan}
    {trace : Trace dkgInterface} {hash : Text} (sent : scan.1.Sent tx hash)
    (run : Runs (Procedure.attempt (collectTx tx) skipUnknownTx scan) trace
      (.value (), scan')) :
    scan.1.Settled trace hash := by
  have body : ∃ outcome,
      Runs (collectTx tx scan) trace (outcome, scan') ∧
        (outcome = .value () ∨ outcome = .raised .transactionNotFound) := by
    rcases Procedure.runs_attempt_iff.mp run with
      ⟨_, same, body⟩ |
      ⟨error, clause, middle, front, back, rfl, handled, body, clauseRun⟩ |
      ⟨_, absurdity, _⟩ | ⟨absurdity, _⟩
    · exact ⟨_, body, .inl rfl⟩
    · cases error <;> cases handled
      obtain ⟨rfl, _, rfl⟩ := Procedure.runs_pure_iff.mp clauseRun
      rw [List.append_nil]
      exact ⟨_, body, .inr rfl⟩
    · cases absurdity
    · cases absurdity
  obtain ⟨outcome, body, ended⟩ := body
  rcases runs_collectTx_cases body with
    ⟨_, _, _, unsent⟩ | ⟨asked, unique, ⟨error, rfl, rfl, _⟩ | ⟨receipt, rfl, cases⟩⟩
  · exact absurd sent (unsent hash)
  · rw [unique hash sent]
    rcases ended with same | same <;> cases same
    exact .unknown (by simp)
  · rw [unique hash sent]
    apply Settled.found receipt (by simp)
    intro accepted
    rcases cases with
      ⟨refused, _, _⟩ | ⟨event, _, parsed, _, _⟩ | ⟨error, _, parsed, rfl, _⟩
    · rw [refused] at accepted
      cases accepted
    · exact ⟨event, parsed⟩
    · rcases ended with same | same <;> cases same
      exact absurd parsed (parseEvent_ne_transactionNotFound _ _)

theorem attemptCollectTx_keeps_filter {tx : Tx} {scan scan' : Scan}
    {trace : Trace dkgInterface} {outcome : Outcome PyError Unit}
    (run : Runs (Procedure.attempt (collectTx tx) skipUnknownTx scan) trace
      (outcome, scan')) :
    scan'.1 = scan.1 := by
  obtain ⟨ended, body, _⟩ := Procedure.runs_attempt_of_returning
    (fun error clause handled => by
      cases error <;> cases handled
      exact ⟨(), rfl⟩) run
  rcases runs_collectTx_cases body with
    ⟨_, _, rfl, _⟩ | ⟨_, _, ⟨_, _, _, rfl⟩ |
    ⟨_, _, ⟨_, _, rfl⟩ | ⟨_, _, _, _, rfl⟩ | ⟨_, _, _, _, rfl⟩⟩⟩ <;> rfl

theorem collectTxs_keeps_filter {txs : List Tx} {scan scan' : Scan}
    {trace : Trace dkgInterface} {outcome : Outcome PyError Unit}
    (run : Runs (collectTxs txs scan) trace (outcome, scan')) :
    scan'.1 = scan.1 := by
  induction txs generalizing scan trace with
  | nil => rw [(Procedure.runs_pure_iff.mp run).2.2]
  | cons tx rest ih =>
      rcases Procedure.runs_bind_iff.mp run with
        ⟨_, middle, front, back, rfl, first, later⟩ |
        ⟨error, rfl, first⟩ | ⟨rfl, first⟩
      · exact (ih later).trans (attemptCollectTx_keeps_filter first)
      · exact attemptCollectTx_keeps_filter first
      · exact attemptCollectTx_keeps_filter first

theorem collectTxs_settles {txs : List Tx} {scan scan' : Scan}
    {trace : Trace dkgInterface}
    (run : Runs (collectTxs txs scan) trace (.value (), scan')) :
    ∀ tx ∈ txs, ∀ hash, scan.1.Sent tx hash → scan.1.Settled trace hash := by
  induction txs generalizing scan trace with
  | nil =>
      intro tx member
      cases member
  | cons tx rest ih =>
      obtain ⟨_, middle, front, back, rfl, first, later⟩ := Procedure.runs_bind_value run
      intro other member hash sent
      rcases List.mem_cons.mp member with rfl | member
      · exact (collectTx_settles sent first).mono
          (List.subset_append_left front back)
      · have same := attemptCollectTx_keeps_filter first
        have settled := ih later other member hash (by rwa [same])
        rw [same] at settled
        exact settled.mono (List.subset_append_right front back)

end Filter

/-- Every transaction to the DKG contract in the blocks from `first` below
`next` is settled. -/
def Chain.Swept (chain : Chain) (filter : Filter) (trace : Trace dkgInterface)
    (first next : Int) : Prop :=
  ∀ block : Nat, first ≤ block → block < next →
    ∀ tx ∈ (chain.blocks block).transactions, ∀ hash,
      filter.Sent tx hash → filter.Settled trace hash

namespace Chain

variable {chain : Chain} {filter : Filter}

theorem Swept.mono {trace longer : Trace dkgInterface} {first next : Int}
    (swept : chain.Swept filter trace first next) (contained : trace ⊆ longer) :
    chain.Swept filter longer first next := by
  intro block above below tx member hash sent
  exact (swept block above below tx member hash sent).mono contained

theorem swept_empty {trace : Trace dkgInterface} {first next : Int}
    (empty : next ≤ first) : chain.Swept filter trace first next := by
  intro block above below
  omega

theorem Swept.append {trace : Trace dkgInterface} {first middle next : Int}
    (lower : chain.Swept filter trace first middle)
    (upper : chain.Swept filter trace middle next) :
    chain.Swept filter trace first next := by
  intro block above below tx member hash sent
  by_cases early : block < middle
  · exact lower block above early tx member hash sent
  · exact upper block (by omega) below tx member hash sent

theorem swept_movedTo {trace : Trace dkgInterface} {first next block : Int} :
    chain.Swept (filter.movedTo block) trace first next ↔
      chain.Swept filter trace first next := by
  unfold Swept
  simp only [Filter.settled_movedTo]
  exact Iff.rfl

/-- Wherever the block loop stops, the blocks it left behind are swept. -/
theorem collectBlocks_sweeps {first count : Nat} {scan scan' : Filter.Scan}
    {trace : Trace dkgInterface} {outcome : Outcome PyError Unit}
    (run : Runs (Filter.collectBlocks (List.range' first count) scan) trace
      (outcome, scan'))
    (admitted : ∀ event ∈ trace, chain.Admits event) :
    scan'.1 = scan.1 ∨
      ∃ next : Int, first ≤ next ∧ scan'.1 = scan.1.movedTo next ∧
        chain.Swept scan.1 trace first next := by
  induction count generalizing first scan trace with
  | zero => exact .inl (by rw [(Procedure.runs_pure_iff.mp run).2.2])
  | succ count ih =>
      rw [List.range'_succ] at run
      rcases runs_invoke_bind_iff.mp run with
        ⟨block, rest, rfl, afterBlock⟩ | ⟨_, _, _, rfl⟩
      swap
      · exact .inl rfl
      have same : block = chain.blocks first :=
        admitted ⟨.getBlock first, .ok block⟩ (by simp)
      rcases Procedure.runs_bind_iff.mp afterBlock with
        ⟨_, middle, front, back, rfl, txs, afterTxs⟩ |
        ⟨_, _, txs⟩ | ⟨_, txs⟩
      · have kept := Filter.collectTxs_keeps_filter txs
        have settled := Filter.collectTxs_settles txs
        rw [Procedure.modify_bind_apply] at afterTxs
        have sweptFirst : chain.Swept scan.1
            (⟨.getBlock first, .ok block⟩ :: (front ++ back)) first
            (first + 1) := by
          intro number above below tx member hash sent
          obtain rfl : number = first := by omega
          rw [← same] at member
          apply (settled tx member hash sent).mono
          intro event inside
          simp [inside]
        have further := ih afterTxs fun event inside =>
          admitted event (by simp [inside])
        refine .inr ?_
        rcases further with stopped | ⟨next, above, moved, sweptRest⟩
        · refine ⟨first + 1, by omega, ?_, sweptFirst⟩
          rw [stopped, kept]
          rfl
        · refine ⟨next, by omega, ?_, ?_⟩
          · rw [moved, kept]
            rfl
          · apply sweptFirst.append
            rw [kept] at sweptRest
            have sweptRest := swept_movedTo.mp sweptRest
            push_cast at sweptRest
            apply sweptRest.mono
            intro event inside
            simp [inside]
      · exact .inl (Filter.collectTxs_keeps_filter txs)
      · exact .inl (Filter.collectTxs_keeps_filter txs)

theorem collectEvents_sweeps {fromChannelStartedBlock : Bool}
    {scan scan' : Filter.Scan} {trace : Trace dkgInterface}
    {outcome : Outcome PyError Unit}
    (run : Runs (Filter.collectEvents fromChannelStartedBlock scan) trace
      (outcome, scan'))
    (admitted : ∀ event ∈ trace, chain.Admits event) :
    scan'.1 = scan.1 ∨
      ∃ first next : Int,
        (first = chain.channelStartedBlock ∨
          first = scan.1.firstUnseenBlock.toNat) ∧
        scan'.1 = scan.1.movedTo next ∧
        chain.Swept scan.1 trace first next := by
  unfold Filter.collectEvents at run
  rw [Procedure.read_bind_apply] at run
  have fromBlock : ∀ {first : Nat} {earlier rest : Trace dkgInterface},
      (first = chain.channelStartedBlock ∨
        first = scan.1.firstUnseenBlock.toNat) →
      trace = earlier ++ rest →
      Runs ((do
        let currentBlock ← invoke .getLatestBlockNumber
        Filter.collectBlocks (Filter.blockRange first currentBlock) :
          DkgM Filter.Scan Unit) scan) rest (outcome, scan') →
      scan'.1 = scan.1 ∨
        ∃ first next : Int,
          (first = chain.channelStartedBlock ∨
            first = scan.1.firstUnseenBlock.toNat) ∧
          scan'.1 = scan.1.movedTo next ∧
          chain.Swept scan.1 trace first next := by
    intro first earlier rest origin split further
    rcases runs_invoke_bind_iff.mp further with
      ⟨current, blocks, rfl, loop⟩ | ⟨_, _, _, rfl⟩
    · have contained : blocks ⊆ trace := by
        intro event inside
        simp [split, inside]
      rcases collectBlocks_sweeps loop fun event inside =>
          admitted event (contained inside) with same | ⟨next, _, moved, swept⟩
      · exact .inl same
      · refine .inr ⟨first, next, ?_, moved, swept.mono contained⟩
        exact origin.imp (congrArg _) (congrArg _)
    · exact .inl rfl
  rcases Procedure.runs_bind_iff.mp run with
    ⟨first, middle, front, back, rfl, started, further⟩ |
    ⟨_, _, started⟩ | ⟨_, started⟩ <;>
    unfold Filter.startBlock at started <;> split at started
  · rcases runs_invoke_iff.mp started with
      ⟨reply, rfl, same, rfl⟩ | ⟨_, _, absurdity, _⟩
    · cases same
      have channel : first = chain.channelStartedBlock :=
        admitted ⟨.getChannelStartedBlock, .ok first⟩ (by simp)
      exact fromBlock (.inl channel) rfl further
    · cases absurdity
  · obtain ⟨rfl, same, rfl⟩ := Procedure.runs_pure_iff.mp started
    cases same
    exact fromBlock (.inr rfl) rfl further
  · rcases runs_invoke_iff.mp started with
      ⟨_, _, _, rfl⟩ | ⟨_, _, _, rfl⟩ <;> exact .inl rfl
  · exact .inl (by rw [(Procedure.runs_pure_iff.mp started).2.2])
  · rcases runs_invoke_iff.mp started with
      ⟨_, _, _, rfl⟩ | ⟨_, _, _, rfl⟩ <;> exact .inl rfl
  · exact .inl (by rw [(Procedure.runs_pure_iff.mp started).2.2])

/-- However a call ends, no block between the channel's start and the scan
pointer is left unswept. -/
theorem getEvents_sweeps {fromChannelStartedBlock : Bool}
    {filter' : Filter} {earlier trace : Trace dkgInterface}
    {outcome : Outcome PyError (List DKGEvent)}
    (run : Runs (Filter.getEvents fromChannelStartedBlock filter) trace
      (outcome, filter'))
    (admitted : ∀ event ∈ trace, chain.Admits event)
    (swept : chain.Swept filter earlier chain.channelStartedBlock
      filter.firstUnseenBlock) :
    chain.Swept filter (earlier ++ trace) chain.channelStartedBlock
      filter'.firstUnseenBlock := by
  obtain ⟨ended, events, body, _⟩ := Filter.runs_getEvents run
  have earlierSwept := swept.mono (List.subset_append_left earlier trace)
  rcases collectEvents_sweeps body admitted with
    same | ⟨first, next, origin, moved, sweptHere⟩
  · have same : filter' = filter := same
    rw [same]
    exact earlierSwept
  · have moved : filter' = filter.movedTo next := moved
    rw [moved]
    have sweptHere := sweptHere.mono (List.subset_append_right earlier trace)
    rcases origin with rfl | rfl
    · exact sweptHere
    · -- blocks below the old pointer were swept by the earlier calls
      intro block above below
      by_cases old : (block : Int) < filter.firstUnseenBlock
      · exact earlierSwept block above old
      · exact sweptHere block (by simp only; omega) below

end Chain

/-- One call of `get_events`. -/
structure Call where
  fromChannelStartedBlock : Bool
  trace : Trace dkgInterface
  outcome : Outcome PyError (List DKGEvent)

/-- `Calls filter calls filter'`: the calls can follow each other on one filter,
whatever was done about the errors of earlier ones. -/
inductive Calls : Filter → List Call → Filter → Prop
  | none (filter : Filter) : Calls filter [] filter
  | next {filter middle last : Filter} {calls : List Call} (call : Call)
      (earlier : Calls filter calls middle)
      (run : Runs (Filter.getEvents call.fromChannelStartedBlock middle)
        call.trace (call.outcome, last)) :
      Calls filter (calls ++ [call]) last

namespace Calls

variable {chain : Chain} {filter filter' : Filter} {calls : List Call}

theorem keeps_filter (run : Calls filter calls filter') :
    ∃ block, filter' = filter.movedTo block := by
  induction run with
  | none => exact ⟨filter.firstUnseenBlock, rfl⟩
  | next call earlier run ih =>
      obtain ⟨block, same⟩ := ih
      obtain ⟨next, moved⟩ := Filter.getEvents_keeps_filter run
      exact ⟨next, by rw [moved, same, Filter.movedTo_movedTo]⟩

theorem returned_events (run : Calls filter calls filter') {call : Call}
    (member : call ∈ calls) {events : List DKGEvent}
    (returned : call.outcome = .value events) :
    events = call.trace.filterMap filter.eventOf := by
  induction run with
  | none => cases member
  | next last earlier run ih =>
      rcases List.mem_append.mp member with inside | inside
      · exact ih inside
      · obtain rfl := List.mem_singleton.mp inside
        obtain ⟨block, same⟩ := earlier.keeps_filter
        obtain ⟨_, _, _, answered⟩ := Filter.runs_getEvents run
        rw [answered events returned, same, Filter.eventOf_movedTo]

theorem sweep (run : Calls filter calls filter')
    (fresh : filter.firstUnseenBlock = -1)
    (admitted : ∀ call ∈ calls, ∀ event ∈ call.trace, chain.Admits event) :
    chain.Swept filter (calls.flatMap Call.trace) chain.channelStartedBlock
      filter'.firstUnseenBlock := by
  induction run with
  | none => exact Chain.swept_empty (by omega)
  | next call earlier run ih =>
      have before := ih fun other member =>
        admitted other (List.mem_append_left _ member)
      obtain ⟨block, same⟩ := earlier.keeps_filter
      have after := Chain.getEvents_sweeps run (admitted call (by simp))
        (by
          rw [same] at before ⊢
          exact Chain.swept_movedTo.mpr before)
      rw [same] at after
      rw [List.flatMap_append, List.flatMap_singleton]
      exact Chain.swept_movedTo.mp after

end Calls

/-- `hash` is a broadcast of the filter's group in the given block. -/
def Chain.Broadcast (chain : Chain) (filter : Filter) (block : Nat)
    (hash : Text) : Prop :=
  (∃ tx ∈ (chain.blocks block).transactions, filter.Sent tx hash) ∧
    filter.checkEvent (chain.receipts hash) = true

/-- The call completed and its events contain the one of `hash`. -/
def Chain.Returned (chain : Chain) (filter : Filter) (hash : Text)
    (call : Call) : Prop :=
  ∃ events event, call.outcome = .value events ∧ event ∈ events ∧
    filter.parseEvent (chain.receipts hash) = .ok event

/-- The call was answered the receipt of `hash` and has not returned. -/
def Chain.Interrupted (chain : Chain) (hash : Text) (call : Call) : Prop :=
  ⟨.getTransactionReceipt hash, .ok (chain.receipts hash)⟩ ∈ call.trace ∧
    ∀ events, call.outcome ≠ .value events

/-- Each broadcast between the channel's start and the scan pointer was
returned by a call, or a call was answered that its transaction is unknown, or
the call that found it has not returned. -/
theorem getEvents_loses_only_unknown_or_interrupted_broadcasts
    (chain : Chain) (filter filter' : Filter) (calls : List Call)
    (fresh : filter.firstUnseenBlock = -1)
    (run : Calls filter calls filter')
    (admitted : ∀ call ∈ calls, ∀ event ∈ call.trace, chain.Admits event)
    (block : Nat) (hash : Text) (broadcast : chain.Broadcast filter block hash)
    (started : chain.channelStartedBlock ≤ block)
    (seen : block < filter'.firstUnseenBlock) :
    ∃ call ∈ calls,
      chain.Returned filter hash call ∨
      ⟨.getTransactionReceipt hash, .error .transactionNotFound⟩ ∈ call.trace ∨
      chain.Interrupted hash call := by
  obtain ⟨⟨tx, member, sent⟩, accepted⟩ := broadcast
  have settled := run.sweep fresh admitted block (by omega) seen tx member hash sent
  cases settled with
  | unknown asked =>
      obtain ⟨call, inside, asked⟩ := List.mem_flatMap.mp asked
      exact ⟨call, inside, .inr (.inl asked)⟩
  | found receipt asked parsed =>
      obtain ⟨call, inside, asked⟩ := List.mem_flatMap.mp asked
      have same : receipt = chain.receipts hash :=
        admitted call inside ⟨.getTransactionReceipt hash, .ok receipt⟩ asked
      subst same
      obtain ⟨event, parsed⟩ := parsed accepted
      refine ⟨call, inside, ?_⟩
      cases ended : call.outcome with
      | raised error =>
          exact .inr (.inr ⟨asked, fun _ same => by rw [ended] at same; cases same⟩)
      | running =>
          exact .inr (.inr ⟨asked, fun _ same => by rw [ended] at same; cases same⟩)
      | value events =>
          refine .inl ⟨events, event, ended, ?_, parsed⟩
          rw [run.returned_events inside ended]
          apply List.mem_filterMap.mpr
          refine ⟨_, asked, ?_⟩
          simp [Filter.eventOf, accepted, parsed, Except.toOption]

section LoneBroadcast

def loneFilter : Filter where
  groupIndexStr := ['g']
  dkgContractAddress := ['d']
  n := 1

def loneBroadcast : Chain where
  blocks number :=
    ⟨if number = 5 then [{ toAddress := some ['d'], hash := some ['h'] }] else []⟩
  receipts _ :=
    ⟨some [{ topics := some [Filter.eventHash, ['g'], ['0', 'x', '0', '0']]
             data := some ['0', 'x', '0', '0'] }]⟩
  channelStartedBlock := 5

theorem loneBroadcast_broadcast :
    loneBroadcast.Broadcast loneFilter 5 ['h'] := by
  refine ⟨⟨_, List.mem_singleton_self _, rfl, rfl, by simp⟩, ?_⟩
  simp [Filter.checkEvent, loneBroadcast, loneFilter]

/-- A first call in which the receipt is answered by `receipt`. -/
def loneCall (receipt : Except PyError Receipt) (events : List DKGEvent) :
    Call where
  fromChannelStartedBlock := false
  trace := [
    ⟨.getChannelStartedBlock, .ok 5⟩, ⟨.getLatestBlockNumber, .ok 5⟩,
    ⟨.getBlock 5, .ok (loneBroadcast.blocks 5)⟩,
    ⟨.getTransactionReceipt ['h'], receipt⟩]
  outcome := .value events

def unknownTxCall : Call :=
  loneCall (.error .transactionNotFound) []

theorem unknownTxCall_runs :
    Calls loneFilter ([] ++ [unknownTxCall]) (loneFilter.movedTo 6) :=
  .next unknownTxCall (.none _) (.call _ (.call _ (.call _ (.call _ (.done _)))))

def knownTxCall : Call :=
  loneCall (.ok (loneBroadcast.receipts ['h']))
    [{ nodeIndex := 0, secretKeyContribution := [], verificationVector := [] }]

theorem knownTxCall_runs :
    Calls loneFilter ([] ++ [knownTxCall]) (loneFilter.movedTo 6) :=
  .next knownTxCall (.none _) (.call _ (.call _ (.call _ (.call _ (.done _)))))

theorem getEvents_can_lose_broadcast :
    ¬ ∀ (chain : Chain) (filter filter' : Filter) (calls : List Call),
      filter.firstUnseenBlock = -1 → Calls filter calls filter' →
      (∀ call ∈ calls, ∀ event ∈ call.trace, chain.Admits event) →
      ∀ (block : Nat) (hash : Text), chain.Broadcast filter block hash →
        chain.channelStartedBlock ≤ block → block < filter'.firstUnseenBlock →
        ∃ call ∈ calls, chain.Returned filter hash call := by
  intro claimed
  have returned := claimed loneBroadcast loneFilter (loneFilter.movedTo 6)
    [unknownTxCall] rfl unknownTxCall_runs
    (by simp [unknownTxCall, loneCall, Chain.Admits, loneBroadcast])
    5 ['h'] loneBroadcast_broadcast (Nat.le_refl 5) (by decide)
  obtain ⟨call, member, events, event, ended, inside, _⟩ := returned
  obtain rfl := List.mem_singleton.mp member
  cases ended
  cases inside

theorem knownTxCall_returns_broadcast :
    loneBroadcast.Returned loneFilter ['h'] knownTxCall := by
  have accounted := getEvents_loses_only_unknown_or_interrupted_broadcasts
    loneBroadcast loneFilter (loneFilter.movedTo 6) [knownTxCall] rfl
    knownTxCall_runs
    (by simp [knownTxCall, loneCall, Chain.Admits, loneBroadcast])
    5 ['h'] loneBroadcast_broadcast (Nat.le_refl 5) (by decide)
  obtain ⟨call, member, returned | unknown | interrupted⟩ := accounted
  · obtain rfl := List.mem_singleton.mp member
    exact returned
  · obtain rfl := List.mem_singleton.mp member
    simp [knownTxCall, loneCall] at unknown
  · obtain rfl := List.mem_singleton.mp member
    exact absurd rfl (interrupted.2 _)

end LoneBroadcast

end SkaleAdmin.Dkg
