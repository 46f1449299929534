import SkaleAdmin.Core.ImaEnv
import SkaleAdmin.Monitor.Peers

/-! `core/schains/cmd.py`: the command that skaled is started with, and the firewall of the
ports in it. -/

namespace SkaleAdmin.Core

open PyText Config Json
open Ipv4 (Address)
open Firewall (SChainRule SChainRuleController SkaledPorts Packet SetOrder runOn)
open Firewall.IptablesController (Legible)
open Monitor (Reachable RuleArguments namedArguments)

/-! ### The command -/

/-- The paths and the endpoints of `tools.configs`. -/
structure CmdConfigs where
  getSkaledContainerConfigPath (schainName : Text) : Text
  dataDirContainerPath : Text
  sharedSpaceContainerPath : Text
  endpoint : Text
  sgxServerUrl : Text
  sslKeyPath : Text
  sslCertPath : Text

section Command

variable (configs : CmdConfigs) (sources : ConfigSources) (files : Directory Text)

def getSslFilepath (isSslFolderEmpty : Bool) : Text × Text :=
  if isSslFolderEmpty then ("NULL".toList, "NULL".toList)
  else (configs.sslKeyPath, configs.sslCertPath)

def portOf (ports : List (String × Int)) (name : String) : Evaluated Int :=
  match ports.lookup name with
  | some port => .ok port
  | none => .error .shape

def getStaticSchainCmd : Evaluated (List Text) := do
  let staticSchainCmd ← itemOf sources.staticParams "schain_cmd".toList
  if isTrue staticSchainCmd then (← asList staticSchainCmd).mapM asText else return []

def optionOf (option : String) (value : Text) : Text :=
  option.toList ++ ' ' :: value

def getSchainContainerBaseOpts (schainName : Text) (isSslFolderEmpty enableSsl syncNode : Bool) :
    Evaluated (List Text) := do
  let ssl := getSslFilepath configs isSslFolderEmpty
  let ports ← getSchainPortsFromConfig (← skaledConfig files)
  let staticSchainCmd ← getStaticSchainCmd sources
  let cmd := [optionOf "--config" (configs.getSkaledContainerConfigPath schainName),
    optionOf "-d" configs.dataDirContainerPath,
    optionOf "--ipcpath" configs.dataDirContainerPath,
    optionOf "--http-port" (str (← portOf ports "http")),
    optionOf "--https-port" (str (← portOf ports "https")),
    optionOf "--ws-port" (str (← portOf ports "ws")),
    optionOf "--wss-port" (str (← portOf ports "wss")),
    optionOf "--main-net-url" configs.endpoint]
  let sgx := if syncNode then [] else
    [optionOf "--sgx-url" configs.sgxServerUrl,
      optionOf "--shared-space-path" (configs.sharedSpaceContainerPath ++ "/data".toList)]
  let certificates := if enableSsl then
    [optionOf "--ssl-key" ssl.1, optionOf "--ssl-cert" ssl.2] else []
  return cmd ++ sgx ++ staticSchainCmd ++ certificates

/-- A start timestamp of zero is none. -/
def getSchainContainerSyncOpts (startTs : Option Int) : List Text :=
  "--download-snapshot readfromconfig".toList ::
    if startTs.getD 0 = 0 then [] else [optionOf "--start-timestamp" (str (startTs.getD 0))]

def getSchainContainerCmd (schainName : Text) (startTs : Option Int)
    (downloadSnapshot isSslFolderEmpty enableSsl syncNode : Bool)
    (snapshotFrom : Option Text) : Evaluated Text := do
  let opts ← getSchainContainerBaseOpts configs sources files schainName isSslFolderEmpty
    enableSsl syncNode
  let majority := if Firewall.isFalsy snapshotFrom then [] else
    ["--no-snapshot-majority".toList, snapshotFrom.getD []]
  let snapshot := if downloadSnapshot then getSchainContainerSyncOpts startTs else []
  return [' '].intercalate (opts ++ majority ++ snapshot)

end Command

/-! ### The ports of the command -/

section Ports

variable {Bytes : Type} {libraries : Libraries Bytes} {portsPerSchain : Nat}
  {ports : SkaledPorts portsPerSchain} {configs : CmdConfigs} {sources : ConfigSources}

def portOptions (ports : SkaledPorts portsPerSchain) : List (String × Fin portsPerSchain) :=
  [("--http-port", ports.HTTP_JSON), ("--https-port", ports.HTTPS_JSON),
    ("--ws-port", ports.WS_JSON), ("--wss-port", ports.WSS_JSON)]

theorem portOptions_everyone {listed : String × Fin portsPerSchain}
    (member : listed ∈ portOptions ports) :
    listed.2 ∈ (Monitor.offsetsBySource ports).everyone := by
  simp only [portOptions, List.mem_cons, List.not_mem_nil, or_false] at member
  rcases member with rfl | rfl | rfl | rfl <;> simp [Monitor.offsetsBySource]

theorem baseOpts_of_ports {files : Directory Text} {config : Value} {basePort : Int}
    {staticSchainCmd : List Text} (schainName : Text)
    (isSslFolderEmpty enableSsl syncNode : Bool)
    (saved : skaledConfig files = .ok config)
    (ported : getSchainPortsFromConfig config = .ok
      [("http", basePort + (ports.HTTP_JSON.val : Int)),
        ("ws", basePort + (ports.WS_JSON.val : Int)),
        ("https", basePort + (ports.HTTPS_JSON.val : Int)),
        ("wss", basePort + (ports.WSS_JSON.val : Int)),
        ("info_http", basePort + (ports.INFO_HTTP_JSON.val : Int))])
    (statics : getStaticSchainCmd sources = .ok staticSchainCmd) :
    ∃ opts, getSchainContainerBaseOpts configs sources files schainName isSslFolderEmpty
        enableSsl syncNode = .ok opts ∧
      ∀ listed ∈ portOptions ports,
        optionOf listed.1 (str (basePort + (listed.2.val : Int))) ∈ opts := by
  refine ⟨_, bind_eq_ok.mpr ⟨_, saved, bind_eq_ok.mpr ⟨_, ported, bind_eq_ok.mpr
    ⟨_, statics, rfl⟩⟩⟩, ?_⟩
  intro listed member
  refine List.mem_append_left _ (List.mem_append_left _ (List.mem_append_left _ ?_))
  simp only [portOptions, List.mem_cons, List.not_mem_nil, or_false] at member
  rcases member with rfl | rfl | rfl | rfl <;> simp

def pairCmdConfigs : CmdConfigs where
  getSkaledContainerConfigPath schainName :=
    "/schain_config/skaled_schain_".toList ++ schainName ++ ".json".toList
  dataDirContainerPath := "/data_dir".toList
  sharedSpaceContainerPath := "/shared-space".toList
  endpoint := "http://127.0.0.1:8545".toList
  sgxServerUrl := "https://127.0.0.1:1026".toList
  sslKeyPath := "/ssl/ssl_key".toList
  sslCertPath := "/ssl/ssl_cert".toList

end Ports

end SkaleAdmin.Core
