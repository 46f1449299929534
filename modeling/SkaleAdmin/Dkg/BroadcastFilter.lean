import SkaleAdmin.Dkg.Structures

/-! The scan of the chain for the broadcast transactions of one group. -/

namespace SkaleAdmin.Dkg

open Interaction PyText

structure DKGEvent where
  nodeIndex : Nat
  secretKeyContribution : Text
  verificationVector : Text
  deriving DecidableEq

/-- `first_unseen_block` is -1 until a block has been scanned. -/
structure Filter where
  groupIndexStr : Text
  dkgContractAddress : Text
  n : Nat
  firstUnseenBlock : Int := -1
  deriving DecidableEq

namespace Filter

def eventHash : Text :=
  "0x47e57a213b52c1c14550e5456a6dcdbf44bb6e87c0832fdde78d996977e6904d".toList

def t (filter : Filter) : Nat := (2 * filter.n + 1) / 3

def checkEvent (filter : Filter) (receipt : Receipt) : Bool :=
  match receipt.logs with
  | none | some [] => false
  | some (log :: _) =>
      match log.topics with
      | some (hash :: group :: _) =>
          if hash != eventHash then false
          else if group != filter.groupIndexStr then false
          else
            match log.data with
            | none => false
            -- empty `HexBytes` are falsy, and their text is the bare `0x`
            | some data => !(data.drop 2).isEmpty
      | _ => false

/-- `parse_event`; the errors are those of its subscripts and of `int`. -/
def parseEvent (filter : Filter) (receipt : Receipt) :
    Except PyError DKGEvent := do
  let logs ← orRaise .keyError receipt.logs
  let log ← orRaise .indexError logs.head?
  let data ← orRaise .keyError log.data
  let eventData := data.drop 2
  let topics ← orRaise .keyError log.topics
  let topic ← orRaise .indexError topics[2]?
  let nodeIndex ← orRaise .valueError (parseInt 16 (topic.drop 2))
  return {
    nodeIndex := nodeIndex.toNat
    secretKeyContribution :=
      slice eventData (192 + 64 + filter.t * 256)
        (192 + 64 + filter.t * 256 + 192 * filter.n)
    verificationVector := slice eventData 192 (192 + filter.t * 256) }

/-- The filter together with the events the current call has collected. -/
abbrev Scan := Filter × List DKGEvent

/-- The body of the inner `try`: one transaction of a block. -/
def collectTx (tx : Tx) : DkgM Scan Unit := do
  let filter ← Procedure.read Prod.fst
  if tx.toAddress != some filter.dkgContractAddress then
    return ()
  match tx.hash with
  | none | some [] => return ()
  | some hash =>
      let receipt ← invoke (.getTransactionReceipt hash)
      if !filter.checkEvent receipt then
        return ()
      match filter.parseEvent receipt with
      | .ok event =>
          Procedure.modify fun scan => (scan.1, scan.2 ++ [event])
      | .error error => Procedure.raise error

def skipUnknownTx : PyError → Option (DkgM Scan Unit)
  | .transactionNotFound => some (pure ())
  | _ => none

def collectTxs : List Tx → DkgM Scan Unit
  | [] => pure ()
  | tx :: rest => do
      Procedure.attempt (collectTx tx) skipUnknownTx
      collectTxs rest

def collectBlocks : List Nat → DkgM Scan Unit
  | [] => pure ()
  | blockNumber :: rest => do
      let block ← invoke (.getBlock blockNumber)
      collectTxs block.transactions
      Procedure.modify fun scan =>
        ({ scan.1 with firstUnseenBlock := blockNumber + 1 }, scan.2)
      collectBlocks rest

/-- `range(first, last + 1)`. -/
def blockRange (first last : Nat) : List Nat :=
  List.range' first (last + 1 - first)

def startBlock (fromChannelStartedBlock : Bool) (filter : Filter) :
    DkgM Scan Nat :=
  if filter.firstUnseenBlock = -1 ∨ fromChannelStartedBlock then
    invoke .getChannelStartedBlock
  else
    pure filter.firstUnseenBlock.toNat

/-- The body of the outer `try`. -/
def collectEvents (fromChannelStartedBlock : Bool) : DkgM Scan Unit := do
  let filter ← Procedure.read Prod.fst
  let first ← startBlock fromChannelStartedBlock filter
  let currentBlock ← invoke .getLatestBlockNumber
  collectBlocks (blockRange first currentBlock)

def keepCollected : PyError → Option (DkgM Scan Unit) :=
  fun error => if error.isValueOrWeb3Error then some (pure ()) else none

def getEvents (fromChannelStartedBlock : Bool) :
    DkgM Filter (List DKGEvent) := do
  let collected ← Procedure.withLocal []
    (Procedure.attempt (collectEvents fromChannelStartedBlock) keepCollected)
  return collected.2

end Filter

end SkaleAdmin.Dkg
