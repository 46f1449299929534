import Mathlib.Data.List.Dedup
import SkaleAdmin.Library.PyText

/-! `core/schains/firewall/types.py`. -/

namespace SkaleAdmin.Firewall

open PyText

/-- `not text`. -/
def isFalsy : Option Text → Bool
  | none | some [] => true
  | some _ => false

theorem isFalsy_of_ne_nil {text : Text} (filled : text ≠ []) :
    isFalsy (some text) = false := by
  cases text with
  | nil => exact absurd rfl filled
  | cons symbol rest => rfl

/-- What `SChainRule.__new__` builds. -/
@[ext] structure SChainRule where
  port : Int
  firstIp : Option Text
  lastIp : Option Text
  filled : isFalsy firstIp = false → isFalsy lastIp = false
  deriving DecidableEq

namespace SChainRule

def new (port : Int) (firstIp lastIp : Option Text) : SChainRule :=
  if bare : isFalsy firstIp = false ∧ isFalsy lastIp = true then
    ⟨port, firstIp, firstIp, fun _ => bare.1⟩
  else
    ⟨port, firstIp, lastIp, fun given => by
      cases empty : isFalsy lastIp
      · rfl
      · exact absurd ⟨given, empty⟩ bare⟩

def lt (rule other : SChainRule) : Bool :=
  if rule.port ≠ other.port then
    rule.port < other.port
  else if rule.firstIp ≠ other.firstIp then
    rule.firstIp.getD [] < other.firstIp.getD []
  else if rule.lastIp ≠ other.lastIp then
    rule.lastIp.getD [] < other.lastIp.getD []
  else
    true

def sorted (rules : List SChainRule) : List SChainRule :=
  rules.mergeSort fun rule other => !other.lt rule

end SChainRule

structure IpRange where
  startIp : Text
  endIp : Text
  deriving DecidableEq

structure SkaledPorts (portsPerSchain : Nat) where
  PROPOSAL : Fin portsPerSchain
  CATCHUP : Fin portsPerSchain
  WS_JSON : Fin portsPerSchain
  HTTP_JSON : Fin portsPerSchain
  BINARY_CONSENSUS : Fin portsPerSchain
  ZMQ_BROADCAST : Fin portsPerSchain
  WSS_JSON : Fin portsPerSchain
  HTTPS_JSON : Fin portsPerSchain
  INFO_HTTP_JSON : Fin portsPerSchain
  IMA_RPC : Fin portsPerSchain

/-- `get_missing` of a rule controller: the fields that are not set, with the values that
they hold. -/
structure Missing where
  basePort : Option (Option Nat)
  ownIp : Option (Option Text)
  nodeIps : Option (List Text)
  deriving DecidableEq

inductive FirewallError where
  | notInitialized (missing : Missing)
  | valueError
  | typeError
  | keyError
  | attributeError
  | iptcError
  deriving DecidableEq

/-- The order in which a set is gone through. -/
structure SetOrder (α : Type) where
  arrange : List α → List α
  perm : ∀ items, (arrange items).Perm items

namespace SChainRule

theorem mem_sorted {rules : List SChainRule} {rule : SChainRule} :
    rule ∈ sorted rules ↔ rule ∈ rules :=
  (List.mergeSort_perm rules _).mem_iff

section New

variable (port : Int) (firstIp lastIp : Option Text)

@[simp] theorem new_port : (new port firstIp lastIp).port = port := by
  unfold new
  split <;> rfl

@[simp] theorem new_firstIp : (new port firstIp lastIp).firstIp = firstIp := by
  unfold new
  split <;> rfl

variable {firstIp lastIp}

theorem new_lastIp_of_given (filled : isFalsy firstIp = false → isFalsy lastIp = false) :
    (new port firstIp lastIp).lastIp = lastIp := by
  unfold new
  rw [dif_neg]
  rintro ⟨given, empty⟩
  rw [filled given] at empty
  cases empty

theorem new_lastIp_of_missing (given : isFalsy firstIp = false)
    (missing : isFalsy lastIp = true) : (new port firstIp lastIp).lastIp = firstIp := by
  unfold new
  rw [dif_pos ⟨given, missing⟩]

end New

end SChainRule

@[simp] theorem SetOrder.mem_arrange {α : Type} (order : SetOrder α) {items : List α}
    {item : α} : item ∈ order.arrange items ↔ item ∈ items :=
  (order.perm items).mem_iff

end SkaleAdmin.Firewall
