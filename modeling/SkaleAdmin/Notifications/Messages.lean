import SkaleAdmin.Library.PyText
import Mathlib.Data.Char
import Mathlib.Data.List.AList
import Mathlib.Data.List.Lex

/-! The notifications and what the store keeps of them. -/

namespace SkaleAdmin.Notifications

open PyText

/-! ### The values -/

structure CheckName where
  text : Text
  plain : ∀ symbol ∈ text, symbol.isAlphanum = true ∨ symbol = '_'
  deriving DecidableEq

abbrev Checks := AList fun _ : CheckName => Bool

structure NodeInfo where
  nodeId : Int
  nodeIp : Text

/-- A value of the store and the seconds after which it expires. -/
structure Entry where
  value : Text
  ex : Option Nat

abbrev Store := Text → Option Entry

abbrev Message := List Text

/-- What happens to `send_message` in a call, and what the clock says. -/
structure Delivery where
  raises : Bool
  timestamp : Int
  datetime : Text

inductive Exception where
  | sendError
  | valueError

structure World where
  store : Store
  sent : List Message

abbrev NotifyM := ExceptT Exception (StateM World)

def RED_LIGHT : Text := "\u274C".toList
def GREEN_LIGHT : Text := "\u2705".toList
def EXCLAMATION_MARK : Text := "\u2757".toList
def SUCCESS_MAX_ATTEMPS : Int := 1
def FAILED_MAX_ATTEMPS : Int := 1

/-! ### The store -/

def get (key : Text) : NotifyM (Option Text) := do
  return ((← getThe World).store key).map Entry.value

def set (key value : Text) (ex : Option Nat) : NotifyM Unit :=
  modifyThe World fun world =>
    { world with store := Function.update world.store key (some { value, ex }) }

/-- `int(client.get(key) or default)`. -/
def getInt (key : Text) (default : Int) : NotifyM Int := do
  match ← get key with
  | none | some [] => return default
  | some value =>
      match parseInt 10 value with
      | none => throw .valueError
      | some number => return number

def notificationsEnabled (enabled : Bool) (body : NotifyM Unit) : NotifyM Unit :=
  if enabled then tryCatch body fun _ => pure () else pure ()

def cleanupNotificationState (store : Store) : Store :=
  fun key => if "messages.".toList.isPrefixOf key then none else store key

def Delivery.lines (delivery : Delivery) (message : Message) : Message :=
  message ++ ["\nTimestamp: ".toList ++ str delivery.timestamp,
    "Datetime: ".toList ++ delivery.datetime]

def sendMessage (delivery : Delivery) (message : Message) : NotifyM Unit := do
  if delivery.raises then throw .sendError
  modifyThe World fun world => { world with sent := world.sent ++ [delivery.lines message] }

/-! ### The checks -/

def isChecksPassed (checks : Checks) : Bool :=
  checks.entries.all fun check => check.2

def checksFailed : Text := '\n' :: (EXCLAMATION_MARK ++ " Some checks failed\n".toList)

def nodeLine (node : NodeInfo) : Text :=
  "Node ID: ".toList ++ str node.nodeId ++ ", IP: ".toList ++ node.nodeIp

/-- `compose_checks_message`, which is not `raw`. -/
def composeChecksMessage (schainName : Text) (node : NodeInfo) (checks : Checks) : Message :=
  let msg := [nodeLine node, "sChain name: ".toList ++ schainName]
  if isChecksPassed checks then msg ++ ['\n' :: (GREEN_LIGHT ++ " All checks passed".toList)]
  else
    msg ++ checksFailed :: (checks.entries.filter fun check => !check.2).map fun check =>
      RED_LIGHT ++ ' ' :: check.1.text

/-- `repr` of a name and its result: the characters of a name stand for themselves. -/
def reprCheck (check : Sigma fun _ : CheckName => Bool) : Text :=
  "('".toList ++ check.1.text ++
    (if check.2 then "', True)" else "', False)").toList

def sortedItems (checks : Checks) : List (Sigma fun _ : CheckName => Bool) :=
  checks.entries.mergeSort fun first second => decide (first.1.text ≤ second.1.text)

def getStateFromChecks (checks : Checks) : Text :=
  '[' :: (", ".toList.intercalate ((sortedItems checks).map reprCheck) ++ [']'])

def checksCountKey (schainName : Text) : Text :=
  "messages.checks.".toList ++ schainName ++ ".count".toList

def checksStateKey (schainName : Text) : Text :=
  "messages.checks.".toList ++ schainName ++ ".state".toList

/-- `notify_checks`; `expiration` is `CHECKS_STATE_EXPIRATION`. -/
def notifyChecks (expiration : Nat) (schainName : Text) (node : NodeInfo) (checks : Checks)
    (delivery : Delivery) : NotifyM Unit := do
  let countKey := checksCountKey schainName
  let stateKey := checksStateKey schainName
  let savedState := (← get stateKey).getD []
  let count ← if savedState ≠ [] then getInt countKey 0 else pure 0
  let state := getStateFromChecks checks
  let success := isChecksPassed checks
  if savedState ≠ state ∨ (success ∧ count < SUCCESS_MAX_ATTEMPS ∨
      ¬success ∧ count < FAILED_MAX_ATTEMPS) then
    sendMessage delivery (composeChecksMessage schainName node checks)
  if savedState ≠ state then
    set stateKey state (if success then none else some expiration)
    set countKey (str 1) none
  else
    set countKey (str (count + 1)) none

/-! ### The balance -/

section Balance

/- Balances are compared, and they are written into the message: nothing is assumed of `<`,
which is false both ways when a float is not a number. -/
variable {β : Type} [LT β] [DecidableLT β] (format : β → Text)

def balanceTooLow : Text := EXCLAMATION_MARK ++ " Balance on node is too low \n".toList

def composeBalanceMessage (node : NodeInfo) (balance requiredBalance : β) : Message :=
  [if balance < requiredBalance then balanceTooLow
    else GREEN_LIGHT ++ " Node id: has enough balance \n".toList,
    nodeLine node,
    "Balance: ".toList ++ format balance ++ " ETH".toList,
    "Required: ".toList ++ format requiredBalance ++ " ETH".toList]

def balanceCountKey : Text := "messages.balance.count".toList

def balanceStateKey : Text := "messages.balance.state".toList

/-- `int(balance > required_balance)`. -/
def balanceState (balance requiredBalance : β) : Int :=
  if requiredBalance < balance then 1 else 0

def notifyBalance (node : NodeInfo) (balance requiredBalance : β) (delivery : Delivery) :
    NotifyM Unit := do
  let count ← getInt balanceCountKey 0
  let savedState ← getInt balanceStateKey (-1)
  let state := balanceState balance requiredBalance
  let success := decide (requiredBalance < balance)
  if savedState ≠ state ∨ (success ∧ count < SUCCESS_MAX_ATTEMPS ∨
      ¬success ∧ count < FAILED_MAX_ATTEMPS) then
    sendMessage delivery (composeBalanceMessage format node balance requiredBalance)
  let count := if savedState ≠ state then 1 else count + 1
  set balanceCountKey (str count) none
  set balanceStateKey (str state) none

end Balance

end SkaleAdmin.Notifications
