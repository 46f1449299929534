import SkaleAdmin.Library.PyPattern
import SkaleAdmin.Library.PySubstitution

/-! What the formatter of the logs hides. -/

namespace SkaleAdmin.Logging

open PyText PySubstitution

/-- What the library makes of texts. -/
structure Python where
  /-- `\w`. -/
  isWord : Char → Bool
  /-- `str.lower`. -/
  lower : Text → Text
  /-- `re.compile(text).finditer`, or `re.error`. -/
  finditer : Text → Option (Text → Matches)

/-! ### The patterns -/

/-- The host in the netloc of a url, as it is written there. -/
def writtenHost (netloc : Text) : Text :=
  let hostinfo := (netloc.reverse.takeWhile (· ≠ '@')).reverse
  if '[' ∈ hostinfo then
    ((hostinfo.dropWhile (· ≠ '[')).drop 1).takeWhile (· ≠ ']')
  else hostinfo.takeWhile (· ≠ ':')

def Python.hostname (python : Python) (netloc : Text) : Text :=
  python.lower ((writtenHost netloc).takeWhile (· ≠ '%')) ++
    (writtenHost netloc).dropWhile (· ≠ '%')

def keyPattern : Text := "NEK\\:\\w+".toList

def SGX_IP : Text := "[SGX_IP]".toList
def ETH_IP : Text := "[ETH_IP]".toList
def SGX_KEY : Text := "[SGX_KEY]".toList

/-- The hosts in the dictionary: of two equal keys the last value stays. -/
def hostPatterns (sgxIp ethIp : Text) : List (Text × Text) :=
  if sgxIp = ethIp then [(ethIp, ETH_IP)] else [(sgxIp, SGX_IP), (ethIp, ETH_IP)]

/-- `compose_hiding_patterns`, on the netlocs of the two urls. -/
def Python.composeHidingPatterns (python : Python) (sgxServerUrl endpoint : Text) :
    List (Text × Text) :=
  hostPatterns (python.hostname sgxServerUrl) (python.hostname endpoint) ++
    [(keyPattern, SGX_KEY)]

/-! ### The formatter -/

section Formatter

/- The characters of a record may carry marks. -/
variable {α : Type} (symbol : α → Char) (plain : Char → α)

def Python.filterSensitive (python : Python) : List (Text × Text) → List α → Option (List α)
  | [], msg => some msg
  | (text, replacement) :: patterns, msg => do
      let found ← python.finditer text
      python.filterSensitive patterns
        (splice (replacement.map plain) (found (msg.map symbol)) msg)

structure LogRecord (α : Type) where
  line : List α
  excInfo : Option (List α)
  stackInfo : Option (List α)

def LogRecord.map {β : Type} (change : α → β) (record : LogRecord α) : LogRecord β where
  line := record.line.map change
  excInfo := record.excInfo.map (List.map change)
  stackInfo := record.stackInfo.map (List.map change)

def appendLine (s text : List α) : List α :=
  if s.getLast?.map symbol = some '\n' then s ++ text else s ++ plain '\n' :: text

/-- `logging.Formatter.format`, where `filter` is what `formatException` and `formatStack`
do last. -/
def LogRecord.formatted {m : Type → Type} [Monad m] (record : LogRecord α)
    (filter : List α → m (List α)) : m (List α) := do
  let s ← match record.excInfo with
    | none => pure record.line
    | some excInfo => do
        let excText ← filter excInfo
        pure (if excText.isEmpty then record.line else appendLine symbol plain record.line excText)
  match record.stackInfo with
  | none | some [] => pure s
  | some stackInfo => do
      let stack ← filter stackInfo
      pure (appendLine symbol plain s stack)

def LogRecord.unfiltered (record : LogRecord α) : List α :=
  Id.run (record.formatted symbol plain pure)

def Python.format (python : Python) (patterns : List (Text × Text)) (record : LogRecord α) :
    Option (List α) := do
  let msg ← record.formatted symbol plain (python.filterSensitive symbol plain patterns)
  python.filterSensitive symbol plain patterns msg

end Formatter

end SkaleAdmin.Logging
