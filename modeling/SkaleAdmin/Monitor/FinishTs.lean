import SkaleAdmin.Monitor.SkaledMonitor
import SkaleAdmin.Library.JsonRoundTrip
import SkaleAdmin.Library.PyNumerals
import Mathlib.Order.Bounds.Basic

/-! The finish time of the latest rotation that has one. -/

namespace SkaleAdmin.Monitor

open PyText Json Config

/-! ### The keys of the groups -/

theorem toList_toString (value : Int) : (toString value).toList = str value := by
  unfold str
  cases value with
  | ofNat value =>
      rw [if_neg (by simp)]
      exact String.toList_ofList
  | negSucc value =>
      rw [if_pos (Int.negSucc_lt_zero value)]
      change ("-" ++ Nat.repr (value + 1)).toList = _
      rw [String.toList_append]
      exact congrArg (List.cons '-') String.toList_ofList

/-- `nodeGroups` as they are generated: each rotation id once, in its decimal form. -/
structure NodeGroups (groups : List (Text × Value)) : Prop where
  canonical : ∀ group ∈ groups, ∃ rotationId : Int, group.1 = str rotationId
  distinct : (groups.map Prod.fst).Nodup
  finishes : ∀ group ∈ groups, getItem "finish_ts" group.2 = .ok .null ∨
    ∃ finishTs, getItem "finish_ts" group.2 = .ok (.num finishTs)

/-- The group of the rotation has a finish time. -/
def Finished (groups : List (Text × Value)) (rotationId finishTs : Int) : Prop :=
  ∃ group, (str rotationId, group) ∈ groups ∧ getItem "finish_ts" group = .ok (.num finishTs)

def finishedIds (groups : List (Text × Value)) : Set Int :=
  {rotationId | ∃ finishTs, Finished groups rotationId finishTs}

section Groups

variable {groups : List (Text × Value)}

theorem getItem_rotation (distinct : (groups.map Prod.fst).Nodup) {rotationId : Int}
    {group : Value} (member : (str rotationId, group) ∈ groups) :
    getItem (toString rotationId) (.obj groups) = .ok group := by
  simp only [getItem, toList_toString, lookup_of_mem distinct member]

theorem Finished.unique (distinct : (groups.map Prod.fst).Nodup) {rotationId first second : Int}
    (finished : Finished groups rotationId first) (again : Finished groups rotationId second) :
    first = second := by
  obtain ⟨group, member, finishes⟩ := finished
  obtain ⟨other, memberToo, finishesToo⟩ := again
  have found := lookup_of_mem distinct member
  rw [lookup_of_mem distinct memberToo] at found
  cases found
  rw [finishes] at finishesToo
  cases finishesToo
  rfl

theorem mapM_rotationIds (canonical : ∀ group ∈ groups, ∃ rotationId : Int,
    group.1 = str rotationId) :
    ∃ rotationIds : List Int,
      (groups.mapM fun group => toInt (.str group.1)) = .ok rotationIds ∧
      groups.map Prod.fst = rotationIds.map str := by
  induction groups with
  | nil => exact ⟨[], rfl, rfl⟩
  | cons group groups ih =>
      obtain ⟨rotationId, key⟩ := canonical group List.mem_cons_self
      obtain ⟨rotationIds, read, keys⟩ :=
        ih fun other member => canonical other (List.mem_cons_of_mem _ member)
      refine ⟨rotationId :: rotationIds, ?_, ?_⟩
      · have first : toInt (.str group.1) = .ok rotationId := by
          simp only [toInt, key, parseInt_str]
        rw [List.mapM_cons, first, read]
        rfl
      · rw [List.map_cons, List.map_cons, key, keys]

end Groups

/-! ### The loop -/

/-- The loop over descending ids ends with the finish time of the first that has one. -/
theorem firstFinishTs_spec {groups : List (Text × Value)} (wellFormed : NodeGroups groups)
    {rotationIds : List Int}
    (known : ∀ rotationId ∈ rotationIds, str rotationId ∈ groups.map Prod.fst)
    (descending : rotationIds.Pairwise fun first second => second ≤ first) :
    ∃ finishTs, firstFinishTs (.obj groups) rotationIds = .ok finishTs ∧
      (finishTs = none → ∀ rotationId ∈ rotationIds, rotationId ∉ finishedIds groups) ∧
      ∀ ts, finishTs = some ts → ∃ rotationId ∈ rotationIds, Finished groups rotationId ts ∧
        ∀ other ∈ rotationIds, other ∈ finishedIds groups → other ≤ rotationId := by
  induction rotationIds with
  | nil => exact ⟨none, rfl, nofun, nofun⟩
  | cons rotationId rest ih =>
      have ⟨above, descendingRest⟩ := List.pairwise_cons.mp descending
      obtain ⟨field, member, key⟩ := List.mem_map.mp (known rotationId List.mem_cons_self)
      have member : (str rotationId, field.2) ∈ groups := by
        rw [← key]
        exact member
      have found := getItem_rotation wellFormed.distinct member
      obtain ⟨finishTs, searched, none_, some_⟩ :=
        ih (fun other later => known other (List.mem_cons_of_mem _ later)) descendingRest
      rcases wellFormed.finishes _ member with unfinished | ⟨ts, finished⟩
      · have skipped : rotationId ∉ finishedIds groups := by
          rintro ⟨ts, group, memberToo, finished⟩
          have same := getItem_rotation wellFormed.distinct memberToo
          rw [found] at same
          cases same
          rw [unfinished] at finished
          cases finished
        refine ⟨finishTs, ?_, ?_, ?_⟩
        · rw [firstFinishTs, found]
          simp only [bind, Except.bind, unfinished]
          exact searched
        · intro nothing other listed
          rcases List.mem_cons.mp listed with rfl | later
          · exact skipped
          · exact none_ nothing other later
        · intro ts same
          obtain ⟨latest, later, finished, greatest⟩ := some_ ts same
          refine ⟨latest, List.mem_cons_of_mem _ later, finished, ?_⟩
          intro other listed finishedToo
          rcases List.mem_cons.mp listed with rfl | later
          · exact absurd finishedToo skipped
          · exact greatest other later finishedToo
      · refine ⟨some ts, ?_, nofun, ?_⟩
        · rw [firstFinishTs, found]
          simp only [bind, Except.bind, finished]
          rfl
        · intro _ same
          cases same
          refine ⟨rotationId, List.mem_cons_self, ⟨_, member, finished⟩, ?_⟩
          intro other listed _
          rcases List.mem_cons.mp listed with rfl | later
          · exact le_refl _
          · exact above other later

def getNodeGroupsFromConfig (config : Value) : Evaluated Value := do
  getItem "nodeGroups" (← getItem "sChain" (← getItem "skaleConfig" config))

theorem getLatestFinishTs_eq {config : Value} {groups : List (Text × Value)}
    {rotationIds : List Int} (found : getNodeGroupsFromConfig config = .ok (.obj groups))
    (read : (groups.mapM fun group => toInt (.str group.1)) = .ok rotationIds) :
    getLatestFinishTs config = firstFinishTs (.obj groups)
      (rotationIds.mergeSort fun first second => second ≤ first) := by
  unfold getNodeGroupsFromConfig at found
  obtain ⟨skaleConfig, first, found⟩ := bind_eq_ok.mp found
  obtain ⟨chain, second, found⟩ := bind_eq_ok.mp found
  unfold getLatestFinishTs
  rw [first]
  change (do
    let chain ← getItem "sChain" skaleConfig
    _) = _
  rw [second]
  change (do
    let nodeGroups ← getItem "nodeGroups" chain
    _) = _
  rw [found]
  change (do
    let rotationIds ← groups.mapM fun group : Text × Value => toInt (.str group.1)
    _) = _
  rw [read]
  rfl

theorem descending_mergeSort (rotationIds : List Int) :
    (rotationIds.mergeSort fun first second => second ≤ first).Pairwise
      fun first second => second ≤ first := by
  have sorted : (rotationIds.mergeSort fun first second => second ≤ first).Pairwise
      fun first second => decide (second ≤ first) = true := by
    apply List.pairwise_mergeSort
    · intro first second third
      simp only [decide_eq_true_eq]
      omega
    · intro first second
      simp only [Bool.or_eq_true, decide_eq_true_eq]
      omega
  simpa using sorted

/-- `get_latest_finish_ts` returns the finish time of the latest finished rotation, and
`None` where no rotation is finished. -/
theorem getLatestFinishTs_greatest (config : Value) (groups : List (Text × Value))
    (found : getNodeGroupsFromConfig config = .ok (.obj groups))
    (wellFormed : NodeGroups groups) :
    ∃ finishTs, getLatestFinishTs config = .ok finishTs ∧
      (finishTs = none ↔ finishedIds groups = ∅) ∧
      ∀ ts, finishTs = some ts ↔
        ∃ rotationId, IsGreatest (finishedIds groups) rotationId ∧
          Finished groups rotationId ts := by
  obtain ⟨rotationIds, read, keys⟩ := mapM_rotationIds wellFormed.canonical
  have listed : ∀ rotationId ∈ finishedIds groups,
      rotationId ∈ rotationIds.mergeSort fun first second => second ≤ first := by
    rintro rotationId ⟨ts, group, member, _⟩
    have key : str rotationId ∈ rotationIds.map str := by
      rw [← keys]
      exact List.mem_map.mpr ⟨_, member, rfl⟩
    exact List.mem_mergeSort.mpr ((List.mem_map_of_injective str_injective).mp key)
  have known : ∀ rotationId ∈ rotationIds.mergeSort fun first second => second ≤ first,
      str rotationId ∈ groups.map Prod.fst := by
    intro rotationId member
    rw [keys]
    exact List.mem_map.mpr ⟨rotationId, List.mem_mergeSort.mp member, rfl⟩
  obtain ⟨finishTs, searched, unfinished, latest⟩ :=
    firstFinishTs_spec wellFormed known (descending_mergeSort rotationIds)
  have greatest : ∀ ts, finishTs = some ts → ∃ rotationId,
      IsGreatest (finishedIds groups) rotationId ∧ Finished groups rotationId ts := by
    intro ts same
    obtain ⟨rotationId, _, finished, above⟩ := latest ts same
    exact ⟨rotationId, ⟨⟨ts, finished⟩, fun other member => above other (listed other member)
      member⟩, finished⟩
  refine ⟨finishTs, (getLatestFinishTs_eq found read).trans searched, ?_, ?_⟩
  · constructor
    · intro nothing
      apply Set.eq_empty_of_forall_notMem
      intro rotationId member
      exact unfinished nothing rotationId (listed rotationId member) member
    · intro empty
      cases same : finishTs with
      | none => rfl
      | some ts =>
          obtain ⟨rotationId, ⟨member, _⟩, _⟩ := greatest ts same
          rw [empty] at member
          exact member.elim
  · intro ts
    refine ⟨greatest ts, ?_⟩
    rintro ⟨rotationId, isGreatest, finished⟩
    cases same : finishTs with
    | none => exact absurd isGreatest.1 (unfinished same rotationId (listed _ isGreatest.1))
    | some first =>
        obtain ⟨other, isGreatestToo, finishedFirst⟩ := greatest first same
        rw [isGreatestToo.unique isGreatest] at finishedFirst
        rw [finishedFirst.unique wellFormed.distinct finished]

def threeGroups : List (Text × Value) :=
  [("9".toList, .obj [("finish_ts".toList, .num 5)]),
    ("11".toList, .obj [("finish_ts".toList, .null)]),
    ("10".toList, .obj [("finish_ts".toList, .num 7)])]

theorem threeGroups_wellFormed : NodeGroups threeGroups where
  canonical := by
    intro group member
    simp only [threeGroups, List.mem_cons, List.not_mem_nil, or_false] at member
    rcases member with rfl | rfl | rfl
    · exact ⟨9, rfl⟩
    · exact ⟨11, rfl⟩
    · exact ⟨10, rfl⟩
  distinct := by decide
  finishes := by
    intro group member
    simp only [threeGroups, List.mem_cons, List.not_mem_nil, or_false] at member
    rcases member with rfl | rfl | rfl
    · exact .inr ⟨5, rfl⟩
    · exact .inl rfl
    · exact .inr ⟨7, rfl⟩

def threeGroupsConfig : Value :=
  .obj [("skaleConfig".toList, .obj [("sChain".toList, .obj [
    ("nodeGroups".toList, .obj threeGroups)])])]

theorem threeGroups_greatest :
    ∃ finishTs, getLatestFinishTs threeGroupsConfig = .ok finishTs ∧
      (finishTs = none ↔ finishedIds threeGroups = ∅) ∧
      ∀ ts, finishTs = some ts ↔
        ∃ rotationId, IsGreatest (finishedIds threeGroups) rotationId ∧
          Finished threeGroups rotationId ts :=
  getLatestFinishTs_greatest threeGroupsConfig threeGroups rfl threeGroups_wellFormed

end SkaleAdmin.Monitor
