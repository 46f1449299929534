import SkaleAdmin.Dkg.FilterCoverage
import SkaleAdmin.Dkg.KeyMaterial

/-! Scans whose calls all succeed: they find the broadcasts of the nodes and
nothing else. -/

namespace SkaleAdmin.Dkg

open Interaction PyText Program
open Interaction.Procedure (runs_invoke_iff runs_invoke_bind_iff)

variable {n : Nat}

structure Broadcasts (n : Nat) where
  event : Fin n → DKGEvent
  block : Fin n → Nat

/-- The chain holds these broadcasts, each from its node, and no other one. -/
structure Chain.Carries (chain : Chain) (filter : Filter) (group : Group n)
    (broadcasts : Broadcasts n) : Prop where
  origin : ∀ index, (broadcasts.event index).From group index
  placed : ∀ index, chain.channelStartedBlock ≤ broadcasts.block index ∧
    ∃ hash, chain.Broadcast filter (broadcasts.block index) hash ∧
      filter.parseEvent (chain.receipts hash) = .ok (broadcasts.event index)
  only : ∀ block hash, chain.Broadcast filter block hash →
    ∃ index, filter.parseEvent (chain.receipts hash) =
      .ok (broadcasts.event index)

def Succeeded (event : Event dkgInterface) : Prop :=
  event.query.isScan = true → ∃ reply, event.answer = .ok reply

/-- The calls of a run that succeed and agree with the chain, of which they see
at least the blocks up to `height`. -/
def Chain.Serves (chain : Chain) (height : Nat) (trace : Trace dkgInterface) :
    Prop :=
  ∀ event ∈ trace, chain.Admits event ∧ Succeeded event ∧
    ∀ number, event = ⟨.getLatestBlockNumber, .ok number⟩ → height ≤ number

namespace Filter

theorem collectTx_unsent {tx : Tx} {scan scan' : Scan}
    {trace : Trace dkgInterface} {outcome : Outcome PyError Unit}
    (unsent : ∀ hash, ¬ scan.1.Sent tx hash)
    (run : Runs (collectTx tx scan) trace (outcome, scan')) : trace = [] := by
  unfold collectTx at run
  rw [Procedure.read_bind_apply] at run
  by_cases addressed : tx.toAddress = some scan.1.dkgContractAddress
  · simp only [addressed, bne_self_eq_false, Bool.false_eq_true, if_false] at run
    cases hashOf : tx.hash with
    | none =>
        simp only [hashOf, Procedure.runs_pure_iff] at run
        exact run.1
    | some text =>
        cases text with
        | nil =>
            simp only [hashOf, Procedure.runs_pure_iff] at run
            exact run.1
        | cons head tail =>
            exact absurd ⟨addressed, hashOf, by simp⟩ (unsent (head :: tail))
  · simp only [bne_iff_ne, ne_eq, addressed, not_false_eq_true, if_true,
      Procedure.runs_pure_iff] at run
    exact run.1

/-- A scan that is served looks up only broadcasts of the chain that parse, so
no error comes out of it. -/
theorem collectTx_served {chain : Chain} {group : Group n}
    {broadcasts : Broadcasts n} {height block : Nat} {tx : Tx}
    {scan scan' : Scan} {trace : Trace dkgInterface}
    {outcome : Outcome PyError Unit}
    (carries : chain.Carries scan.1 group broadcasts)
    (member : tx ∈ (chain.blocks block).transactions)
    (serves : chain.Serves height trace)
    (run : Runs (collectTx tx scan) trace (outcome, scan')) :
    outcome = .value () ∧
      ∀ event ∈ trace.filterMap scan.1.eventOf,
        ∃ index, event = broadcasts.event index := by
  rcases runs_collectTx_cases run with
    ⟨rfl, rfl, _, _⟩ | ⟨hash, unique, ⟨error, rfl, _, _⟩ | ⟨receipt, rfl, cases⟩⟩
  · refine ⟨rfl, ?_⟩
    intro event inside
    cases inside
  · obtain ⟨_, absurdity⟩ := (serves _ (List.mem_singleton_self _)).2.1 rfl
    cases absurdity
  · have sent : scan.1.Sent tx hash := by
      by_contra unsent
      have none : ∀ other, ¬ scan.1.Sent tx other := by
        intro other sent
        rw [unique other sent] at sent
        exact unsent sent
      cases collectTx_unsent none run
    have same : receipt = chain.receipts hash :=
      (serves _ (List.mem_singleton_self _)).1
    subst same
    rcases cases with
      ⟨refused, rfl, _⟩ | ⟨event, accepted, parsed, rfl, _⟩ |
      ⟨error, accepted, parsed, _, _⟩
    · refine ⟨rfl, ?_⟩
      intro event inside
      simp [eventOf, refused] at inside
    · obtain ⟨index, known⟩ := carries.only block hash ⟨⟨tx, member, sent⟩, accepted⟩
      rw [parsed] at known
      cases known
      refine ⟨rfl, ?_⟩
      intro other inside
      refine ⟨index, ?_⟩
      simpa [eventOf, accepted, parsed, Except.toOption] using inside
    · obtain ⟨index, known⟩ := carries.only block hash ⟨⟨tx, member, sent⟩, accepted⟩
      rw [parsed] at known
      cases known

end Filter

namespace Chain

variable {chain : Chain} {group : Group n} {broadcasts : Broadcasts n}
  {height : Nat}

theorem carries_movedTo {filter : Filter} {block : Int} :
    chain.Carries (filter.movedTo block) group broadcasts ↔
      chain.Carries filter group broadcasts := by
  constructor
  · intro carries
    exact ⟨carries.origin, carries.placed, carries.only⟩
  · intro carries
    exact ⟨carries.origin, carries.placed, carries.only⟩

theorem Serves.mono {trace longer : Trace dkgInterface}
    (serves : chain.Serves height longer) (contained : trace ⊆ longer) :
    chain.Serves height trace :=
  fun event member => serves event (contained member)

/-- Only the broadcasts of the nodes are found. -/
def Finds (broadcasts : Broadcasts n) (filter : Filter)
    (trace : Trace dkgInterface) : Prop :=
  ∀ event ∈ trace.filterMap filter.eventOf, ∃ index, event = broadcasts.event index

theorem Finds.append {filter : Filter} {front back : Trace dkgInterface}
    (first : Finds broadcasts filter front) (second : Finds broadcasts filter back) :
    Finds broadcasts filter (front ++ back) := by
  intro event member
  rw [List.filterMap_append] at member
  rcases List.mem_append.mp member with inside | inside
  · exact first event inside
  · exact second event inside

theorem finds_unread {filter : Filter} {event : Event dkgInterface}
    (unread : filter.eventOf event = none) : Finds broadcasts filter [event] := by
  intro other member
  rw [List.filterMap_cons_none unread] at member
  cases member

theorem attemptCollectTx_served {block : Nat} {tx : Tx}
    {scan scan' : Filter.Scan} {trace : Trace dkgInterface}
    {outcome : Outcome PyError Unit}
    (carries : chain.Carries scan.1 group broadcasts)
    (member : tx ∈ (chain.blocks block).transactions)
    (serves : chain.Serves height trace)
    (run : Runs (Procedure.attempt (Filter.collectTx tx) Filter.skipUnknownTx
      scan) trace (outcome, scan')) :
    outcome = .value () ∧ Finds broadcasts scan.1 trace := by
  rcases Procedure.runs_attempt_iff.mp run with
    ⟨_, rfl, body⟩ | ⟨error, clause, middle, front, back, rfl, _, body, _⟩ |
    ⟨error, rfl, _, body⟩ | ⟨rfl, body⟩
  · exact Filter.collectTx_served carries member serves body
  · have ended := Filter.collectTx_served carries member
      (serves.mono (List.subset_append_left front back)) body
    cases ended.1
  · exact Filter.collectTx_served carries member serves body
  · exact Filter.collectTx_served carries member serves body

theorem collectTxs_served {block : Nat} {txs : List Tx}
    {scan scan' : Filter.Scan} {trace : Trace dkgInterface}
    {outcome : Outcome PyError Unit}
    (carries : chain.Carries scan.1 group broadcasts)
    (contained : txs ⊆ (chain.blocks block).transactions)
    (serves : chain.Serves height trace)
    (run : Runs (Filter.collectTxs txs scan) trace (outcome, scan')) :
    outcome = .value () ∧ Finds broadcasts scan.1 trace := by
  induction txs generalizing scan trace with
  | nil =>
      obtain ⟨rfl, rfl, _⟩ := Procedure.runs_pure_iff.mp run
      exact ⟨rfl, fun _ inside => by cases inside⟩
  | cons tx rest ih =>
      obtain ⟨head, others⟩ := List.cons_subset.mp contained
      rcases Procedure.runs_bind_iff.mp run with
        ⟨_, middle, front, back, rfl, first, later⟩ |
        ⟨error, rfl, first⟩ | ⟨rfl, first⟩
      · have same := Filter.attemptCollectTx_keeps_filter first
        have found := (attemptCollectTx_served carries head
          (serves.mono (List.subset_append_left front back)) first).2
        obtain ⟨ended, foundLater⟩ := ih (by rwa [same]) others
          (serves.mono (List.subset_append_right front back)) later
        rw [same] at foundLater
        exact ⟨ended, found.append foundLater⟩
      · cases (attemptCollectTx_served carries head serves first).1
      · cases (attemptCollectTx_served carries head serves first).1

theorem collectBlocks_served {first count : Nat} {scan scan' : Filter.Scan}
    {trace : Trace dkgInterface} {outcome : Outcome PyError Unit}
    (carries : chain.Carries scan.1 group broadcasts)
    (serves : chain.Serves height trace)
    (run : Runs (Filter.collectBlocks (List.range' first count) scan) trace
      (outcome, scan')) :
    outcome = .value () ∧ Finds broadcasts scan.1 trace ∧
      chain.Swept scan.1 trace first (first + count : Nat) := by
  induction count generalizing first scan trace with
  | zero =>
      obtain ⟨rfl, rfl, _⟩ := Procedure.runs_pure_iff.mp run
      exact ⟨rfl, fun _ inside => (by cases inside), swept_empty (by omega)⟩
  | succ count ih =>
      rw [List.range'_succ] at run
      rcases runs_invoke_bind_iff.mp run with
        ⟨block, rest, rfl, afterBlock⟩ | ⟨error, rfl, _, _⟩
      swap
      · obtain ⟨_, absurdity⟩ := (serves _ (List.mem_singleton_self _)).2.1 rfl
        cases absurdity
      have same : block = chain.blocks first := (serves _ List.mem_cons_self).1
      subst same
      have servesRest : chain.Serves height rest :=
        serves.mono (List.subset_cons_self _ rest)
      rcases Procedure.runs_bind_iff.mp afterBlock with
        ⟨_, middle, front, back, rfl, txs, afterTxs⟩ |
        ⟨error, rfl, txs⟩ | ⟨rfl, txs⟩
      · have kept := Filter.collectTxs_keeps_filter txs
        have settled := Filter.collectTxs_settles txs
        have found := (collectTxs_served carries (List.Subset.refl _)
          (servesRest.mono (List.subset_append_left front back)) txs).2
        rw [Procedure.modify_bind_apply] at afterTxs
        have carriesThen : chain.Carries (middle.1.movedTo (first + 1 : Nat)) group
            broadcasts := by
          rw [kept]
          exact carries_movedTo.mpr carries
        obtain ⟨ended, foundLater, sweptLater⟩ := ih carriesThen
          (servesRest.mono (List.subset_append_right front back)) afterTxs
        have sweptLater := swept_movedTo.mp sweptLater
        rw [kept] at sweptLater
        have foundLater : Finds broadcasts scan.1 back := by
          rw [← kept]
          exact foundLater
        refine ⟨ended, ?_, ?_⟩
        · have unread : Finds broadcasts scan.1
              [⟨.getBlock first, .ok (chain.blocks first)⟩] := finds_unread rfl
          exact unread.append (found.append foundLater)
        · intro number above below tx member hash sent
          by_cases here : number = first
          · subst here
            apply (settled tx member hash sent).mono
            intro event inside
            simp [inside]
          · apply (sweptLater number (by omega) (by omega) tx member hash
              sent).mono
            intro event inside
            simp [inside]
      · cases (collectTxs_served carries (List.Subset.refl _) servesRest txs).1
      · cases (collectTxs_served carries (List.Subset.refl _) servesRest txs).1

/-- A scan that is served from the channel's start finds the broadcasts of all
blocks up to the height. -/
theorem collectEvents_served {fromChannelStartedBlock : Bool}
    {scan scan' : Filter.Scan} {trace : Trace dkgInterface}
    {outcome : Outcome PyError Unit}
    (carries : chain.Carries scan.1 group broadcasts)
    (serves : chain.Serves height trace)
    (run : Runs (Filter.collectEvents fromChannelStartedBlock scan) trace
      (outcome, scan')) :
    outcome = .value () ∧ Finds broadcasts scan.1 trace ∧
      (scan.1.firstUnseenBlock = -1 ∨ fromChannelStartedBlock →
        chain.Swept scan.1 trace chain.channelStartedBlock (height + 1)) := by
  unfold Filter.collectEvents at run
  rw [Procedure.read_bind_apply] at run
  have fromBlock : ∀ {first : Nat} {rest : Trace dkgInterface},
      rest ⊆ trace →
      Runs ((do
        let currentBlock ← invoke .getLatestBlockNumber
        Filter.collectBlocks (Filter.blockRange first currentBlock) :
          DkgM Filter.Scan Unit) scan) rest (outcome, scan') →
      outcome = .value () ∧ Finds broadcasts scan.1 rest ∧
        chain.Swept scan.1 trace first (height + 1) := by
    intro first rest contained further
    have servesRest := serves.mono contained
    rcases runs_invoke_bind_iff.mp further with
      ⟨current, blocks, rfl, loop⟩ | ⟨error, rfl, _, _⟩
    · have tall : height ≤ current :=
        (servesRest _ List.mem_cons_self).2.2 current rfl
      obtain ⟨ended, found, swept⟩ := collectBlocks_served carries
        (servesRest.mono (List.subset_cons_self _ blocks)) loop
      refine ⟨ended, ?_, ?_⟩
      · have unread : Finds broadcasts scan.1
            [⟨.getLatestBlockNumber, .ok current⟩] := finds_unread rfl
        exact unread.append found
      · intro number above below
        exact (swept.mono (List.Subset.trans (List.subset_cons_self _ blocks)
          contained))
          number above (by omega)
    · obtain ⟨_, absurdity⟩ := (servesRest _ (List.mem_singleton_self _)).2.1 rfl
      cases absurdity
  unfold Filter.startBlock at run
  split at run
  · rcases runs_invoke_bind_iff.mp run with
      ⟨reply, rest, rfl, further⟩ | ⟨error, rfl, _, _⟩
    · have channel : reply = chain.channelStartedBlock :=
        (serves _ List.mem_cons_self).1
      subst channel
      obtain ⟨ended, found, swept⟩ :=
        fromBlock (List.subset_cons_self _ rest) further
      refine ⟨ended, ?_, fun _ => swept⟩
      have unread : Finds broadcasts scan.1
          [⟨.getChannelStartedBlock, .ok chain.channelStartedBlock⟩] := finds_unread rfl
      exact unread.append found
    · obtain ⟨_, absurdity⟩ := (serves _ (List.mem_singleton_self _)).2.1 rfl
      cases absurdity
  · rename_i later
    rw [Procedure.pure_bind_apply] at run
    obtain ⟨ended, found, _⟩ := fromBlock (List.Subset.refl _) run
    exact ⟨ended, found, fun fromStart => absurd fromStart later⟩

/-- A served call of `get_events` returns, and what it returns are broadcasts of
the chain; a call from the channel's start returns all of them. -/
theorem getEvents_served {fromChannelStartedBlock : Bool} {filter filter' : Filter}
    {trace : Trace dkgInterface} {outcome : Outcome PyError (List DKGEvent)}
    (carries : chain.Carries filter group broadcasts)
    (serves : chain.Serves height trace)
    (run : Runs (Filter.getEvents fromChannelStartedBlock filter) trace
      (outcome, filter')) :
    outcome = .value (trace.filterMap filter.eventOf) ∧
      Finds broadcasts filter trace ∧
      (filter.firstUnseenBlock = -1 ∨ fromChannelStartedBlock →
        ∀ index, broadcasts.block index ≤ height →
          broadcasts.event index ∈ trace.filterMap filter.eventOf) := by
  obtain ⟨ended, events, body, returned⟩ := Filter.runs_getEvents run
  obtain ⟨rfl, found, swept⟩ := collectEvents_served carries serves body
  have value : ∃ result, outcome = .value result := by
    have scanned : ∀ {front back : Trace dkgInterface} {reached : Filter}
        {result : Outcome PyError (Unit × List DKGEvent)},
        trace = front ++ back →
        Runs (Procedure.withLocal []
          (Procedure.attempt (Filter.collectEvents fromChannelStartedBlock)
            Filter.keepCollected) filter) front (result, reached) →
        ∃ collected, result = .value collected := by
      intro front back reached result split scan
      obtain ⟨outer, held, attempted, rfl⟩ := Procedure.runs_withLocal_iff.mp scan
      obtain ⟨inner, innerRun, kept⟩ := Procedure.runs_attempt_of_returning
        (fun _ _ => Filter.keepCollected_returning) attempted
      rw [split] at serves
      obtain ⟨rfl, _, _⟩ := collectEvents_served carries
        (serves.mono (List.subset_append_left front back)) innerRun
      rcases kept with rfl | ⟨_, _, absurdity, _⟩
      · exact ⟨_, rfl⟩
      · cases absurdity
    unfold Filter.getEvents at run
    rcases Procedure.runs_bind_iff.mp run with
      ⟨result, middle, front, back, rfl, _, rest⟩ |
      ⟨error, rfl, first⟩ | ⟨rfl, first⟩
    · obtain ⟨_, rfl, _⟩ := Procedure.runs_pure_iff.mp rest
      exact ⟨_, rfl⟩
    · obtain ⟨_, absurdity⟩ := scanned (List.append_nil trace).symm first
      cases absurdity
    · obtain ⟨_, absurdity⟩ := scanned (List.append_nil trace).symm first
      cases absurdity
  obtain ⟨result, rfl⟩ := value
  refine ⟨congrArg Outcome.value (returned result rfl), found, ?_⟩
  intro fromStart index low
  obtain ⟨started, hash, ⟨⟨tx, member, sent⟩, accepted⟩, parsed⟩ :=
    carries.placed index
  have settled := swept fromStart (broadcasts.block index) (by omega) (by omega)
    tx member hash sent
  apply List.mem_filterMap.mpr
  cases settled with
  | unknown asked =>
      obtain ⟨_, absurdity⟩ := (serves _ asked).2.1 rfl
      cases absurdity
  | found receipt asked _ =>
      have same : receipt = chain.receipts hash := (serves _ asked).1
      subst same
      refine ⟨_, asked, ?_⟩
      have accepted : filter.checkEvent (chain.receipts hash) = true := accepted
      simp [Filter.eventOf, accepted, parsed, Except.toOption]

end Chain

end SkaleAdmin.Dkg
