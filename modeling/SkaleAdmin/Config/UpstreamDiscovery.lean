import SkaleAdmin.Config.NamedUpstreams
import Mathlib.Data.List.Perm.Basic

/-! Which files of a directory `get_upstream_configs` takes for upstreams. -/

namespace SkaleAdmin.Config.Named

open PyText

/-- What `re.compile` makes of a text: `pattern.search`, or `re.error`. -/
abbrev RegexEngine := Text → Option (Text → Bool)

/-- The engine knows characters that stand for themselves, dots and `\d+`. -/
def RegexEngine.Literal (re : RegexEngine) : Prop :=
  ∀ text pattern, PyPattern.compile text = some pattern →
    re text = some (PyPattern.search pattern)

namespace ConfigFileManager

variable (re : RegexEngine) (manager : ConfigFileManager)

/-- `{upstream_prefix}\d+_\d+.json`. -/
def patternText : Text :=
  manager.upstreamPrefix ++ "\\d+_\\d+.json".toList

/-- `get_upstream_configs` on the names in the directory, for any name of the chain;
`none` stands for `re.error`. -/
def getUpstreamConfigsWith (names : List Text) :
    Option (Managed (List UpstreamConfigFilename)) := do
  let search ← re manager.patternText
  return do
    let filenames := manager.getFilesWithPrefix manager.upstreamPrefix names
    let upstreams ← (filenames.filter search).mapM UpstreamConfigFilename.fromFilename
    return upstreams.mergeSort UpstreamConfigFilename.le

/-! ### What is to be found -/

/-- `schain_<name>_<digits>_<digits>.json`, with its entry. -/
def Names (file : Text) (entry : UpstreamConfigFilename) : Prop :=
  ∃ rotation time : Text, rotation ≠ [] ∧ time ≠ [] ∧
    (∀ symbol ∈ rotation, isDecimal symbol = true) ∧
    (∀ symbol ∈ time, isDecimal symbol = true) ∧
    file = manager.upstreamPrefix ++ rotation ++ '_' :: time ++ '.' :: "json".toList ∧
    entry = ⟨manager.schainName, decimalNumber rotation, decimalNumber time⟩

def IsUpstream (file : Text) : Prop :=
  ∃ entry, manager.Names file entry

/-- First by the rotation, then by the time. -/
def InOrder (first second : UpstreamConfigFilename) : Prop :=
  first.rotationId < second.rotationId ∨
    first.rotationId = second.rotationId ∧ first.ts ≤ second.ts

def Exact (names : List Text) : Prop :=
  ∃ entries, manager.getUpstreamConfigsWith re names = some (.ok entries) ∧
    entries.Pairwise InOrder ∧
    ∃ upstreams : List Text, upstreams.Nodup ∧
      (∀ file, file ∈ upstreams ↔ file ∈ names ∧ manager.IsUpstream file) ∧
      List.Forall₂ manager.Names upstreams entries

/-- The pattern is found in the path of the file. -/
def Found (search : Text → Bool) (file : Text) : Prop :=
  search (join manager.dirname file) = true

/-- The name is a pattern, and of the files with the prefix it is found in the upstreams. -/
def Selects (names : List Text) : Prop :=
  ∃ search, re manager.patternText = some search ∧
    ∀ file ∈ names, manager.upstreamPrefix <+: file →
      (manager.Found search file ↔ manager.IsUpstream file)

/-- The pattern is found in the paths of the upstreams. -/
def Complete (names : List Text) : Prop :=
  ∀ search, re manager.patternText = some search →
    ∀ file ∈ names, manager.IsUpstream file → manager.Found search file

/-- No character of the name is special in a pattern. -/
def Ordinary (name : Text) : Prop :=
  ∀ symbol ∈ name, symbol ∉ PyPattern.specialCharacters

/-! ### One file -/

variable {manager} {file : Text} {entry : UpstreamConfigFilename}

theorem decimal_plain {digits : Text} (decimal : ∀ symbol ∈ digits, isDecimal symbol = true) :
    '_' ∉ digits ∧ '/' ∉ digits :=
  ⟨fun member => absurd (decimal _ member) (by decide),
    fun member => absurd (decimal _ member) (by decide)⟩

theorem Names.fromFilename (plain : '/' ∉ manager.schainName) (names : manager.Names file entry) :
    UpstreamConfigFilename.fromFilename (join manager.dirname file) = .ok entry := by
  obtain ⟨rotation, time, rotationFilled, timeFilled, rotationDecimal, timeDecimal, rfl, rfl⟩ :=
    names
  have read {digits : Text} (filled : digits ≠ [])
      (decimal : ∀ symbol ∈ digits, isDecimal symbol = true) :
      UpstreamConfigFilename.toInt digits = .ok (decimalNumber digits) := by
    rw [UpstreamConfigFilename.toInt, parseInt_decimals filled decimal]
  have spelled := UpstreamConfigFilename.fromFilename_spelled manager.dirname plain
    (decimal_plain rotationDecimal) (decimal_plain timeDecimal)
    (read rotationFilled rotationDecimal) (read timeFilled timeDecimal)
  have same : manager.upstreamPrefix ++ rotation ++ '_' :: time ++ '.' :: "json".toList =
      "schain_".toList ++ manager.schainName ++ '_' :: rotation ++ '_' :: time ++
        '.' :: "json".toList := by
    unfold upstreamPrefix
    simp only [List.append_assoc, List.cons_append, List.nil_append]
  rw [same]
  exact spelled

theorem Names.isPrefix (names : manager.Names file entry) : manager.upstreamPrefix <+: file := by
  obtain ⟨rotation, time, _, _, _, _, rfl, _⟩ := names
  rw [List.append_assoc, List.append_assoc]
  exact List.prefix_append _ _

/-- Somewhere in the path stand the prefix, two numbers and `json`, with any one character
before it and anything behind it. -/
def Resembles (manager : ConfigFileManager) (path : Text) : Prop :=
  ∃ (front rotation time : Text) (symbol : Char) (back : Text), rotation ≠ [] ∧ time ≠ [] ∧
    (∀ symbol ∈ rotation, isDecimal symbol = true) ∧
    (∀ symbol ∈ time, isDecimal symbol = true) ∧ symbol ≠ '\n' ∧
    path = front ++ (manager.upstreamPrefix ++
      (rotation ++ '_' :: (time ++ symbol :: ("json".toList ++ back))))

theorem search_pattern_iff {path : Text} :
    PyPattern.search manager.pattern path = true ↔ manager.Resembles path := by
  rw [PyPattern.search_iff, pattern]
  constructor
  · rintro ⟨front, rest, whole, found⟩
    obtain ⟨numbers, spelled, found⟩ := PyPattern.literals_iff.mp found
    obtain ⟨rotation, behind, rotationFilled, rotationDecimal, first, found⟩ :=
      PyPattern.digits_iff.mp found
    obtain ⟨others, between, found⟩ := PyPattern.literal_iff.mp found
    obtain ⟨time, dotted, timeFilled, timeDecimal, second, found⟩ := PyPattern.digits_iff.mp found
    obtain ⟨symbol, ends, apart, here, found⟩ := PyPattern.any_iff.mp found
    obtain ⟨back, last⟩ := PyPattern.ends_iff.mp found
    refine ⟨front, rotation, time, symbol, back, rotationFilled, timeFilled, rotationDecimal,
      timeDecimal, apart, ?_⟩
    rw [whole, spelled, first, between, second, here, last]
  · rintro ⟨front, rotation, time, symbol, back, rotationFilled, timeFilled, rotationDecimal,
      timeDecimal, apart, whole⟩
    refine ⟨front, _, whole, PyPattern.literals_iff.mpr ⟨_, rfl, ?_⟩⟩
    refine PyPattern.digits_iff.mpr ⟨rotation, _, rotationFilled, rotationDecimal, rfl, ?_⟩
    refine PyPattern.literal_iff.mpr ⟨_, rfl, ?_⟩
    refine PyPattern.digits_iff.mpr ⟨time, _, timeFilled, timeDecimal, rfl, ?_⟩
    exact PyPattern.any_iff.mpr ⟨symbol, _, apart, rfl, PyPattern.ends_iff.mpr ⟨back, rfl⟩⟩

theorem Names.search_pattern (names : manager.Names file entry) :
    PyPattern.search manager.pattern (join manager.dirname file) = true := by
  obtain ⟨rotation, time, rotationFilled, timeFilled, rotationDecimal, timeDecimal, rfl, _⟩ :=
    names
  obtain ⟨front, joined⟩ := exists_join manager.dirname
    (manager.upstreamPrefix ++ rotation ++ '_' :: time ++ '.' :: "json".toList)
  refine search_pattern_iff.mpr ⟨front, rotation, time, '.', [], rotationFilled, timeFilled,
    rotationDecimal, timeDecimal, by decide, ?_⟩
  rw [joined]
  simp only [List.append_assoc, List.append_nil, List.cons_append]

theorem ordinary_of_all {name : Text}
    (plain : (name.all fun symbol => !PyPattern.specialCharacters.contains symbol) = true) :
    Ordinary name := by
  intro symbol member special
  have apart := List.all_eq_true.mp plain symbol member
  simp [special] at apart

theorem compile_patternText (ordinary : Ordinary manager.schainName) :
    PyPattern.compile manager.patternText = some manager.pattern := by
  apply PyPattern.compile_literals
  · intro symbol member
    unfold upstreamPrefix at member
    rcases List.mem_append.mp member with front | last
    · rcases List.mem_append.mp front with start | name
      · have plain : Ordinary "schain_".toList := ordinary_of_all (by decide)
        exact plain symbol start
      · exact ordinary symbol name
    · have plain : Ordinary ['_'] := ordinary_of_all (by decide)
      exact plain symbol last
  · simp only [String.reduceToList]
    rfl

/-- For an ordinary name the engine does not matter. -/
theorem getUpstreamConfigsWith_ordinary (literal : re.Literal)
    (ordinary : Ordinary manager.schainName) (files : Files) :
    manager.getUpstreamConfigsWith re files.keys = some (manager.getUpstreamConfigs files) := by
  unfold getUpstreamConfigsWith
  rw [literal _ _ (compile_patternText ordinary)]
  rfl

/-! ### The files that are read -/

/-- The files with the prefix in whose paths the pattern is found, in the order of the paths. -/
def chosen (manager : ConfigFileManager) (search : Text → Bool) (names : List Text) : List Text :=
  ((names.filter fun name => manager.upstreamPrefix.isPrefixOf name).mergeSort
    fun first second => join manager.dirname first ≤ join manager.dirname second).filter
      fun file => search (join manager.dirname file)

section Chosen

variable {search : Text → Bool} {names : List Text}

theorem filter_getFilesWithPrefix :
    (manager.getFilesWithPrefix manager.upstreamPrefix names).filter search =
      (manager.chosen search names).map (join manager.dirname) := by
  have sorted := List.map_mergeSort
    (l := names.filter fun name => manager.upstreamPrefix.isPrefixOf name)
    (s := fun first second => decide (first ≤ second)) (f := join manager.dirname)
    fun _ _ _ _ => rfl
  unfold getFilesWithPrefix chosen
  rw [← sorted, List.filter_map]
  rfl

theorem mem_chosen : file ∈ manager.chosen search names ↔
    file ∈ names ∧ manager.upstreamPrefix <+: file ∧ manager.Found search file := by
  unfold chosen Found
  rw [List.mem_filter, List.mem_mergeSort, List.mem_filter, List.isPrefixOf_iff_prefix, and_assoc]

theorem nodup_chosen (distinct : names.Nodup) : (manager.chosen search names).Nodup :=
  ((List.mergeSort_perm _ _).nodup_iff.mpr (distinct.filter _)).filter _

theorem getUpstreamConfigsWith_eq (found : re manager.patternText = some search) :
    manager.getUpstreamConfigsWith re names = some (do
      let upstreams ← ((manager.chosen search names).map (join manager.dirname)).mapM
        UpstreamConfigFilename.fromFilename
      return upstreams.mergeSort UpstreamConfigFilename.le) := by
  unfold getUpstreamConfigsWith
  rw [found, ← filter_getFilesWithPrefix]
  rfl

theorem length_entries (found : re manager.patternText = some search)
    {entries : List UpstreamConfigFilename}
    (returned : manager.getUpstreamConfigsWith re names = some (.ok entries)) :
    entries.length = (manager.chosen search names).length := by
  rw [getUpstreamConfigsWith_eq re found] at returned
  have lengths : ∀ (paths : List Text) (entries : List UpstreamConfigFilename),
      paths.mapM UpstreamConfigFilename.fromFilename = .ok entries →
        entries.length = paths.length := by
    intro paths
    induction paths with
    | nil =>
        intro entries read
        cases read
        rfl
    | cons path paths ih =>
        intro entries read
        rw [List.mapM_cons] at read
        cases first : UpstreamConfigFilename.fromFilename path with
        | error error => rw [first] at read; cases read
        | ok entry =>
            cases others : paths.mapM UpstreamConfigFilename.fromFilename with
            | error error => rw [first, others] at read; cases read
            | ok rest =>
                rw [first, others] at read
                cases read
                rw [List.length_cons, List.length_cons, ih rest others]
  cases read : ((manager.chosen search names).map (join manager.dirname)).mapM
      UpstreamConfigFilename.fromFilename with
  | error error => rw [read] at returned; cases returned
  | ok upstreams =>
      rw [read] at returned
      cases returned
      rw [List.length_mergeSort, lengths _ _ read, List.length_map]

theorem mapM_upstreams (plain : '/' ∉ manager.schainName) {upstreams : List Text}
    (all : ∀ file ∈ upstreams, manager.IsUpstream file) :
    ∃ filenames : List Config.UpstreamConfigFilename,
      (upstreams.map (join manager.dirname)).mapM UpstreamConfigFilename.fromFilename =
        .ok (filenames.map manager.named) ∧
      List.Forall₂ manager.Names upstreams (filenames.map manager.named) := by
  induction upstreams with
  | nil => exact ⟨[], rfl, .nil⟩
  | cons file upstreams ih =>
      obtain ⟨filenames, read, named⟩ := ih fun other member => all other (by simp [member])
      obtain ⟨entry, names⟩ := all file (by simp)
      have first := names.fromFilename plain
      obtain ⟨rotation, time, _, _, _, _, _, rfl⟩ := id names
      refine ⟨⟨decimalNumber rotation, decimalNumber time⟩ :: filenames, ?_, .cons names named⟩
      rw [List.map_cons, List.mapM_cons, first, read]
      rfl

theorem exact_of_selects (plain : '/' ∉ manager.schainName) (distinct : names.Nodup)
    (selects : manager.Selects re names) : manager.Exact re names := by
  obtain ⟨search, found, same⟩ := selects
  have upstream : ∀ file, file ∈ manager.chosen search names ↔
      file ∈ names ∧ manager.IsUpstream file := by
    intro file
    rw [mem_chosen]
    constructor
    · rintro ⟨listed, started, here⟩
      exact ⟨listed, (same file listed started).mp here⟩
    · rintro ⟨listed, entry, names⟩
      exact ⟨listed, names.isPrefix, (same file listed names.isPrefix).mpr ⟨entry, names⟩⟩
  obtain ⟨filenames, read, named⟩ :=
    mapM_upstreams plain fun file member => ((upstream file).mp member).2
  have ordered := List.pairwise_mergeSort Config.UpstreamConfigFilename.le_trans
    Config.UpstreamConfigFilename.le_total filenames
  have permuted : ((filenames.mergeSort Config.UpstreamConfigFilename.le).map manager.named).Perm
      (filenames.map manager.named) := (List.mergeSort_perm _ _).map _
  obtain ⟨upstreams, entries, files⟩ := List.perm_comp_forall₂ permuted named.flip
  refine ⟨_, ?_, List.pairwise_map.mpr (ordered.imp ?_), upstreams,
    files.nodup_iff.mpr (nodup_chosen distinct), fun file => ?_, entries.flip⟩
  · rw [getUpstreamConfigsWith_eq re found, read]
    apply congrArg (some ∘ Except.ok)
    rw [← List.map_mergeSort fun first _ second _ => (le_named first second).symm]
  · intro first second lower
    have numbers := Config.UpstreamConfigFilename.le_iff.mp lower
    unfold InOrder ConfigFileManager.named
    dsimp only
    omega
  · rw [files.mem_iff, upstream]

/-- What is found is exact only when the files that are read are the upstreams. -/
theorem selects_of_exact (exact : manager.Exact re names)
    (complete : manager.Complete re names) : manager.Selects re names := by
  obtain ⟨entries, returned, -, upstreams, nodup, upstream, named⟩ := exact
  cases found : re manager.patternText with
  | none =>
      unfold getUpstreamConfigsWith at returned
      rw [found] at returned
      cases returned
  | some search =>
      refine ⟨search, found, ?_⟩
      intro file listed started
      refine ⟨fun here => ?_, complete search found file listed⟩
      have lengths : upstreams.length = (manager.chosen search names).length :=
        named.length_eq.trans (length_entries re found returned)
      have among : upstreams ⊆ manager.chosen search names := by
        intro other member
        obtain ⟨within, entry, names⟩ := (upstream other).mp member
        exact mem_chosen.mpr ⟨within, names.isPrefix,
          complete search found other within ⟨entry, names⟩⟩
      have same :=
        (List.subperm_of_subset nodup among).perm_of_length_le (Nat.le_of_eq lengths.symm)
      exact ((upstream file).mp (same.mem_iff.mpr (mem_chosen.mpr ⟨listed, started, here⟩))).2

end Chosen

section Conditions

variable {names : List Text}

theorem found_of_exact {search : Text → Bool} (found : re manager.patternText = some search)
    (exact : manager.Exact re [file]) (upstream : manager.IsUpstream file) :
    manager.Found search file := by
  obtain ⟨entries, returned, -, upstreams, nodup, same, named⟩ := exact
  by_contra hidden
  have none : manager.chosen search [file] = [] := by
    apply List.eq_nil_iff_forall_not_mem.mpr
    intro other member
    obtain ⟨listed, _, here⟩ := mem_chosen.mp member
    rw [List.mem_singleton.mp listed] at here
    exact hidden here
  have empty : upstreams.length = 0 := by
    rw [named.length_eq, length_entries re found returned, none, List.length_nil]
  have member := (same file).mpr ⟨List.mem_singleton_self file, upstream⟩
  rw [List.length_eq_zero_iff.mp empty] at member
  cases member

theorem Selects.sublist {files : List Text} (selects : manager.Selects re files)
    (within : names ⊆ files) : manager.Selects re names := by
  obtain ⟨search, found, same⟩ := selects
  exact ⟨search, found, fun file listed => same file (within listed)⟩

theorem complete_of_ordinary (literal : re.Literal) (ordinary : Ordinary manager.schainName) :
    manager.Complete re names := by
  intro search found file _ ⟨entry, names⟩
  rw [literal _ _ (compile_patternText ordinary)] at found
  cases found
  exact names.search_pattern

/-- For an ordinary name the other files that are read are those whose path resembles an
upstream, as that of a copy does. -/
theorem selects_iff_of_ordinary (literal : re.Literal) (ordinary : Ordinary manager.schainName) :
    manager.Selects re names ↔ ∀ file ∈ names, manager.upstreamPrefix <+: file →
      manager.Resembles (join manager.dirname file) → manager.IsUpstream file := by
  have compiled := literal _ _ (compile_patternText ordinary)
  constructor
  · rintro ⟨search, found, same⟩ file listed started resembles
    rw [compiled] at found
    cases found
    exact (same file listed started).mp (search_pattern_iff.mpr resembles)
  · intro others
    refine ⟨_, compiled, fun file listed started => ⟨fun here => ?_, ?_⟩⟩
    · exact others file listed started (search_pattern_iff.mp here)
    · rintro ⟨entry, names⟩
      exact names.search_pattern

/-- The upstreams of a directory and of what is left of it are found exactly as long as the
pattern is found in them and in no other files with the prefix. -/
theorem getUpstreamConfigs_exact_iff (re : RegexEngine) (literal : re.Literal)
    (manager : ConfigFileManager) (plain : '/' ∉ manager.schainName) (files : List Text)
    (distinct : files.Nodup) :
    ((∀ names, names ⊆ files → names.Nodup → manager.Exact re names) ↔
      manager.Selects re files) ∧
    (manager.Complete re files → (manager.Exact re files ↔ manager.Selects re files)) ∧
    (Ordinary manager.schainName → manager.Complete re files) := by
  refine ⟨⟨fun exact => ?_, fun selects names within nodup => ?_⟩, fun complete => ⟨fun exact => ?_,
    exact_of_selects re plain distinct⟩, complete_of_ordinary re literal⟩
  · apply selects_of_exact re (exact files (List.Subset.refl _) distinct)
    intro search found file listed upstream
    have single : [file] ⊆ files := by
      intro other member
      rwa [List.mem_singleton.mp member]
    exact found_of_exact re found (exact [file] single (List.nodup_singleton _)) upstream
  · exact exact_of_selects re plain nodup (selects.sublist re within)
  · exact selects_of_exact re exact complete

end Conditions

def literalEngine : RegexEngine :=
  fun text => (PyPattern.compile text).map PyPattern.search

theorem literalEngine_literal : RegexEngine.Literal literalEngine := by
  intro text pattern compiled
  unfold literalEngine
  rw [compiled]
  rfl

def aManager : ConfigFileManager where
  schainName := ['a']
  dirname := "/data/schains/a".toList

def backupName : Text :=
  "schain_a_1_2.json.bak".toList

/-- The copy of an upstream is read as one. -/
theorem backup_breaks : ¬aManager.Exact literalEngine [backupName] := by
  intro exact
  have ordinary : Ordinary aManager.schainName := ordinary_of_all (by decide)
  have selects := selects_of_exact literalEngine exact
    (complete_of_ordinary literalEngine literalEngine_literal ordinary)
  obtain ⟨search, found, same⟩ := selects
  rw [literalEngine_literal _ _ (compile_patternText ordinary)] at found
  cases found
  have read : aManager.Found (PyPattern.search aManager.pattern) backupName := by
    unfold Found
    decide
  obtain ⟨entry, rotation, time, _, _, _, _, spelled, _⟩ :=
    (same backupName (List.mem_singleton_self _)
      (List.isPrefixOf_iff_prefix.mp (by decide))).mp read
  have last : backupName.getLast? = some 'n' := by
    rw [spelled, List.getLast?_append]
    rfl
  exact absurd last (by decide)

/-- Two upstreams beside the other files of a chain. -/
theorem sample_exact_iff :
    let files := ["schain_a_10_2.json".toList, "schain_a_9_3.json".toList,
      "schain_a.json".toList]
    '/' ∉ aManager.schainName ∧ files.Nodup ∧
      ((∀ names, names ⊆ files → names.Nodup → aManager.Exact literalEngine names) ↔
        aManager.Selects literalEngine files) ∧
      (aManager.Complete literalEngine files →
        (aManager.Exact literalEngine files ↔ aManager.Selects literalEngine files)) ∧
      (Ordinary aManager.schainName → aManager.Complete literalEngine files) :=
  ⟨by decide, by decide, getUpstreamConfigs_exact_iff literalEngine literalEngine_literal aManager
    (by decide) _ (by decide)⟩

end ConfigFileManager

end SkaleAdmin.Config.Named
