import SkaleAdmin.Config.Checks
import SkaleAdmin.Library.JsonRoundTrip

/-! What `external.json` keeps of an external state. -/

namespace SkaleAdmin.Config

open PyText Json

/-! ### Sorted ranges -/

namespace IpRange

variable {first second third : IpRange}

theorem le_iff : first.le second = true ↔ first.startIp < second.startIp ∨
    first.startIp = second.startIp ∧ first.endIp ≤ second.endIp := by
  rw [IpRange.le, decide_eq_true_eq]

theorem le_trans (first second third : IpRange) (below : first.le second = true)
    (above : second.le third = true) : first.le third = true := by
  rw [le_iff] at *
  rcases below with below | ⟨same, below⟩
  · rcases above with above | ⟨same, _⟩
    · exact .inl (below.trans above)
    · exact .inl (same ▸ below)
  · rcases above with above | ⟨sameToo, above⟩
    · exact .inl (same ▸ above)
    · exact .inr ⟨same.trans sameToo, below.trans above⟩

theorem le_total (first second : IpRange) :
    (first.le second || second.le first) = true := by
  rw [Bool.or_eq_true, le_iff, le_iff]
  rcases lt_trichotomy first.startIp second.startIp with below | same | above
  · exact .inl (.inl below)
  · rcases lt_or_ge first.endIp second.endIp with below | above
    · exact .inl (.inr ⟨same, below.le⟩)
    · exact .inr (.inr ⟨same.symm, above⟩)
  · exact .inr (.inl above)

theorem le_antisymm (below : first.le second = true) (above : second.le first = true) :
    first = second := by
  rw [le_iff] at *
  obtain ⟨firstStart, firstEnd⟩ := first
  obtain ⟨secondStart, secondEnd⟩ := second
  rcases below with below | ⟨rfl, below⟩
  · rcases above with above | ⟨rfl, _⟩
    · exact absurd above below.asymm
    · exact absurd below (lt_irrefl _)
  · rcases above with above | ⟨_, above⟩
    · exact absurd above (lt_irrefl _)
    · exact congrArg (IpRange.mk firstStart) (below.antisymm above)

end IpRange

def SortedRanges (ranges : List IpRange) : Prop :=
  ranges.Pairwise fun first second => first.le second = true

theorem sorted_mergeSort (ranges : List IpRange) :
    SortedRanges (ranges.mergeSort IpRange.le) :=
  List.pairwise_mergeSort IpRange.le_trans IpRange.le_total ranges

theorem mergeSort_eq_self {ranges : List IpRange} :
    ranges.mergeSort IpRange.le = ranges ↔ SortedRanges ranges := by
  constructor
  · intro same
    rw [← same]
    exact sorted_mergeSort ranges
  · exact List.mergeSort_of_pairwise

def getSyncAgentRanges (ipRangesNumber : Nat) (ipRangeByIndex : Nat → IpRange) : List IpRange :=
  ((List.range ipRangesNumber).map ipRangeByIndex).mergeSort IpRange.le

/-! ### The round trip -/

def externalConfigUpdate (files : Directory Text) (exState : ExternalState) :
    Directory Text :=
  files.put .external exState.document.text

def ExternalState.sorted (state : ExternalState) : ExternalState :=
  { state with ranges := state.ranges.mergeSort IpRange.le }

variable {files : Directory Text} {state other : ExternalState}

theorem ExternalState.sorted_eq_self : state.sorted = state ↔ SortedRanges state.ranges := by
  rw [← mergeSort_eq_self]
  constructor
  · intro same
    exact congrArg ExternalState.ranges same
  · intro same
    rw [ExternalState.sorted, same]

theorem externalConfigRead_update :
    externalConfigRead (externalConfigUpdate files state) = .ok (.obj state.toDict) := by
  have read : (externalConfigUpdate files state).read .external = some state.document.text :=
    Directory.read_put_self ..
  have loaded : loads state.document.text = some (.obj state.toDict) :=
    loads_dumps state.document.wellFormed
  rw [externalConfigRead, read]
  simp [readJson, read, loaded]

theorem rangesOf_toDict (ranges : List IpRange) :
    rangesOf (.arr (ranges.map fun range => .arr [.str range.startIp, .str range.endIp])) =
      .ok (ranges.mergeSort IpRange.le) := by
  have read : (ranges.map fun range : IpRange =>
      Value.arr [.str range.startIp, .str range.endIp]).mapM ipRangeOf = .ok ranges := by
    induction ranges with
    | nil => rfl
    | cons range ranges ih =>
        rw [List.map_cons, List.mapM_cons, ih]
        rfl
  simp only [rangesOf, iterate, bind, Except.bind, read]
  rfl

theorem externalConfigGet_update :
    externalConfigGet (externalConfigUpdate files state) = .ok (some state.sorted) := by
  have chainId : getItem "chain_id" (.obj state.toDict) = .ok (.num state.chainId) := rfl
  have imaLinked : getItem "ima_linked" (.obj state.toDict) = .ok (.bool state.imaLinked) := rfl
  have ranges : getItem "ranges" (.obj state.toDict) = .ok (.arr (state.ranges.map fun range =>
      .arr [.str range.startIp, .str range.endIp])) := rfl
  have reloadTs : getOr "reload_ts" .null (.obj state.toDict) =
      .ok ((state.toDict.lookup "reload_ts".toList).getD .null) := rfl
  have full : truthy (.obj state.toDict) = true := rfl
  unfold externalConfigGet
  simp only [externalConfigRead_update, bind, Except.bind, full, Bool.not_true, chainId,
    imaLinked, ranges, rangesOf_toDict, reloadTs]
  unfold ExternalState.sorted
  obtain ⟨chain, listed, linked, scheduled⟩ := state
  cases scheduled <;> rfl

/-- A state is reported as synced with the file of another one if its ranges are sorted
and it is otherwise the same. -/
theorem externalConfigSynced_update :
    externalConfigSynced (externalConfigUpdate files state) other =
      .ok (decide (other = state.sorted)) := by
  unfold externalConfigSynced
  rw [externalConfigGet_update]
  simp only [bind, Except.bind, pure, Except.pure, Option.some.injEq, eq_comm]

theorem externalConfigSynced_update_iff :
    externalConfigSynced (externalConfigUpdate files state) other = .ok true ↔
      other = state.sorted := by
  rw [externalConfigSynced_update, Except.ok.injEq, decide_eq_true_eq]

/-- The file keeps a state but for the order of its ranges. -/
theorem externalConfig_roundTrip (files : Directory Text) (state other : ExternalState)
    (ipRangesNumber : Nat) (ipRangeByIndex : Nat → IpRange) :
    externalConfigGet (externalConfigUpdate files state) = .ok (some state.sorted) ∧
    (∃ synced, externalConfigSynced (externalConfigUpdate files state) state = .ok synced ∧
      (synced = true ↔ SortedRanges state.ranges)) ∧
    (state.ranges = getSyncAgentRanges ipRangesNumber ipRangeByIndex →
      externalConfigSynced (externalConfigUpdate files state) state = .ok true) ∧
    (externalConfigSynced (externalConfigUpdate files state) other = .ok true ↔
      other = state.sorted) ∧
    (externalConfigSynced (externalConfigUpdate files state) other = .ok true →
      externalConfigSynced (externalConfigUpdate files other) state = .ok true →
      state = other) := by
  refine ⟨externalConfigGet_update, ⟨_, externalConfigSynced_update, ?_⟩, ?_,
    externalConfigSynced_update_iff, ?_⟩
  · rw [decide_eq_true_eq, eq_comm]
    exact ExternalState.sorted_eq_self
  · intro read
    rw [externalConfigSynced_update_iff, eq_comm, ExternalState.sorted_eq_self, read]
    exact sorted_mergeSort _
  · intro synced syncedToo
    rw [externalConfigSynced_update_iff] at synced syncedToo
    have sorted : SortedRanges other.ranges := by
      rw [synced]
      exact sorted_mergeSort _
    rw [syncedToo, ExternalState.sorted_eq_self.mpr sorted]

def firstRange : IpRange where
  startIp := "1.1.1.1".toList
  endIp := "1.1.1.9".toList

def secondRange : IpRange where
  startIp := "2.2.2.2".toList
  endIp := "2.2.2.9".toList

theorem externalConfigSynced_reordered :
    ¬ ∀ (files : Directory Text) (state other : ExternalState), state ≠ other →
      externalConfigSynced (externalConfigUpdate files state) other ≠ .ok true := by
  intro claimed
  apply claimed [] { chainId := 1, ranges := [secondRange, firstRange] }
    { chainId := 1, ranges := [firstRange, secondRange] } (by decide)
  rw [externalConfigSynced_update_iff]
  unfold ExternalState.sorted
  have sorted : [secondRange, firstRange].mergeSort IpRange.le = [firstRange, secondRange] := by
    have above : secondRange.le firstRange = false := by decide
    simp [List.mergeSort, List.MergeSort.Internal.splitInTwo, above]
  rw [sorted]

end SkaleAdmin.Config
