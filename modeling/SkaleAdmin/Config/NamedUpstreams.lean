import SkaleAdmin.Config.NamedFiles
import SkaleAdmin.Library.PyOrder
import Mathlib.Data.Prod.Lex

/-! The names of upstream configs are found and read back. -/

namespace SkaleAdmin.Config.Named

open PyText

/-! ### One name -/

namespace UpstreamConfigFilename

theorem notMem_str (symbol : Char) (signless : symbol ≠ '-')
    (letter : symbol.isDigit = false) (value : Int) : symbol ∉ str value := by
  intro member
  rcases mem_str member with sign | digit
  · exact signless sign
  · rw [letter] at digit
    cases digit

@[simp] theorem toInt_str (value : Int) : toInt (str value) = .ok value := by
  rw [toInt, parseInt_str]

def head (self : UpstreamConfigFilename) : Text :=
  "schain_".toList ++ self.name

def front (self : UpstreamConfigFilename) : Text :=
  self.head ++ '_' :: str self.rotationId

def base (self : UpstreamConfigFilename) : Text :=
  self.front ++ '_' :: str self.ts

theorem filename_eq (self : UpstreamConfigFilename) :
    self.filename = self.base ++ '.' :: "json".toList := by
  have suffix : ".json".toList = '.' :: "json".toList := rfl
  unfold filename base front head
  rw [suffix]

theorem fromFilename_spelled (dirname : Text) {name rotation time : Text} {rotationId ts : Int}
    (plain : '/' ∉ name) (rotationPlain : '_' ∉ rotation ∧ '/' ∉ rotation)
    (timePlain : '_' ∉ time ∧ '/' ∉ time) (rotationRead : toInt rotation = .ok rotationId)
    (timeRead : toInt time = .ok ts) :
    fromFilename (join dirname
      ("schain_".toList ++ name ++ '_' :: rotation ++ '_' :: time ++ '.' :: "json".toList)) =
        .ok { name, rotationId, ts } := by
  have start : '/' ∉ "schain_".toList := by decide
  have suffix : '/' ∉ "json".toList := by decide
  have stemmed : stem (join dirname
      ("schain_".toList ++ name ++ '_' :: rotation ++ '_' :: time ++ '.' :: "json".toList)) =
        "schain_".toList ++ name ++ '_' :: rotation ++ '_' :: time := by
    apply stem_join _ (List.append_ne_nil_of_right_ne_nil _ (List.cons_ne_nil _ _)) (by decide)
      (by decide)
    simp only [List.mem_append, List.mem_cons, start, plain, rotationPlain.2, timePlain.2, suffix,
      or_false, not_or]
    decide
  have tsLast : rfind '_' ("schain_".toList ++ name ++ '_' :: rotation ++ '_' :: time) =
      ("schain_".toList ++ name ++ '_' :: rotation).length := rfind_append timePlain.1
  have ridLast : rfind '_' ("schain_".toList ++ name ++ '_' :: rotation) =
      ("schain_".toList ++ name).length := rfind_append rotationPlain.1
  have head : cut ("schain_".toList ++ name ++ '_' :: rotation ++ '_' :: time) 0
      ("schain_".toList ++ name).length = "schain_".toList ++ name := by
    rw [List.append_assoc ("schain_".toList ++ name)]
    exact cut_left
  have stripped : replaceFirst "schain_".toList [] ("schain_".toList ++ name) = name :=
    replaceFirst_append _ _ _ (by decide)
  unfold fromFilename
  rw [stemmed]
  dsimp only
  rw [tsLast, cut_right, cut_left, ridLast, cut_middle, head, stripped, timeRead, rotationRead]
  rfl

/-- A name is read back from its path, whatever the chain is called. -/
theorem fromFilename_join (dirname : Text) {self : UpstreamConfigFilename}
    (plain : '/' ∉ self.name) : fromFilename (join dirname self.filename) = .ok self := by
  have signless (value : Int) : '_' ∉ str value ∧ '/' ∉ str value :=
    ⟨notMem_str '_' (by decide) (by decide) value, notMem_str '/' (by decide) (by decide) value⟩
  rw [filename_eq]
  exact fromFilename_spelled dirname plain (signless _) (signless _) (toInt_str _) (toInt_str _)

/-- What `__lt__` compares. -/
def key (self : UpstreamConfigFilename) : Text ×ₗ ℤ ×ₗ ℤ :=
  toLex (self.name, toLex (self.rotationId, self.ts))

theorem eq_iff_key {self other : UpstreamConfigFilename} :
    self.eq other = true ↔ self.key = other.key := by
  unfold eq key
  simp [and_assoc]

theorem lt_iff_key {self other : UpstreamConfigFilename} :
    self.lt other = true ↔ self.key < other.key := by
  unfold lt key
  rw [Prod.Lex.toLex_lt_toLex, Prod.Lex.toLex_lt_toLex]
  by_cases names : self.name = other.name
  · by_cases rotationIds : self.rotationId = other.rotationId
    · simp [names, rotationIds]
    · simp [names, rotationIds]
  · simp [names]

theorem lt_iff_of_same_name {self other : UpstreamConfigFilename} (same : self.name = other.name) :
    self.lt other = true ↔ self.rotationId < other.rotationId ∨
      self.rotationId = other.rotationId ∧ self.ts < other.ts := by
  rw [lt_iff_key, key, key, Prod.Lex.toLex_lt_toLex, Prod.Lex.toLex_lt_toLex, same]
  simp

/-- Names are read back from their paths and stand in a strict total order, in which the files
of one chain follow each other by their numbers. -/
theorem read_back_and_ordered :
    (∀ (basePath : Text) (self : UpstreamConfigFilename), '/' ∉ self.name →
      fromFilename (self.abspath basePath) = .ok self) ∧
    PyOrder.StrictlyOrders lt eq ∧
    ∀ self other : UpstreamConfigFilename, self.name = other.name →
      (self.lt other = true ↔ self.rotationId < other.rotationId ∨
        self.rotationId = other.rotationId ∧ self.ts < other.ts) := by
  refine ⟨?_, ?_, ?_⟩
  · intro basePath self plain
    exact fromFilename_join basePath plain
  · exact PyOrder.strictlyOrders_of_key key (fun _ _ => lt_iff_key) fun _ _ => eq_iff_key
  · intro self other same
    exact lt_iff_of_same_name same

def underscored (rotationId : Int) : UpstreamConfigFilename where
  name := "my_schain_2.0_7".toList
  rotationId := rotationId
  ts := 1700000000

/-- The prefix, an underscore and a dot recur in the name, and 9 comes before 10. -/
theorem underscored_read_back_and_ordered :
    fromFilename ((underscored 10).abspath "/schains/my_schain_2.0_7".toList) =
        .ok (underscored 10) ∧
      (underscored 9).lt (underscored 10) = true := by
  obtain ⟨reads, _, orders⟩ := read_back_and_ordered
  have nearer : (9 : Int) < 10 := by decide
  exact ⟨reads _ (underscored 10) (by decide),
    (orders (underscored 9) (underscored 10) rfl).mpr (.inl nearer)⟩

end UpstreamConfigFilename

/-! ### The names in the directory -/

namespace ConfigFileManager

variable (manager : ConfigFileManager)

/-- The file of the chain whose name leaves the chain out. -/
def named (filename : Config.UpstreamConfigFilename) : UpstreamConfigFilename where
  name := manager.schainName
  rotationId := filename.rotationId
  ts := filename.ts

def externalFilename : Text :=
  "external.json".toList

def secretKeyFilename (rotationId : Nat) : Text :=
  "secret_key_".toList ++ str rotationId ++ ".json".toList

def nameOf : FileName → Text
  | .upstream filename => (manager.named filename).filename
  | .skaled => skaledConfigFilename manager.schainName
  | .external => externalFilename
  | .secretKey rotationId => secretKeyFilename rotationId

variable {manager}

theorem le_named (first second : Config.UpstreamConfigFilename) :
    (manager.named first).le (manager.named second) = first.le second := by
  unfold UpstreamConfigFilename.le UpstreamConfigFilename.lt
    Config.UpstreamConfigFilename.le Config.UpstreamConfigFilename.lt named
  simp only [ne_eq, not_true_eq_false, ↓reduceIte, Int.natCast_inj, Int.ofNat_lt,
    ite_not]

theorem named_injective : Function.Injective manager.named := by
  intro first second same
  simp only [named, UpstreamConfigFilename.mk.injEq, Int.natCast_inj, true_and] at same
  obtain ⟨rotationId, ts⟩ := first
  obtain ⟨rfl, rfl⟩ := same
  rfl

theorem filename_named (filename : Config.UpstreamConfigFilename) :
    (manager.named filename).filename = manager.upstreamPrefix ++
      (str filename.rotationId ++ '_' :: (str filename.ts ++ '.' :: "json".toList)) := by
  have suffix : ".json".toList = '.' :: "json".toList := rfl
  unfold UpstreamConfigFilename.filename upstreamPrefix named
  rw [suffix]
  simp only [List.append_assoc, List.cons_append, List.nil_append]

theorem search_filename (filename : Config.UpstreamConfigFilename) :
    PyPattern.search manager.pattern
      (join manager.dirname (manager.named filename).filename) = true := by
  obtain ⟨front, joined⟩ := exists_join manager.dirname (manager.named filename).filename
  rw [joined, filename_named]
  apply PyPattern.search_of_suffix
  apply PyPattern.matchesPrefix_literals
  apply PyPattern.matchesPrefix_digits (str_ne_nil _) fun _ member =>
    isDecimal_of_isDigit (isDigit_of_mem_str_natCast member)
  rw [PyPattern.matchesPrefix, beq_self_eq_true, Bool.true_and]
  apply PyPattern.matchesPrefix_digits (str_ne_nil _) fun _ member =>
    isDecimal_of_isDigit (isDigit_of_mem_str_natCast member)
  decide

theorem isPrefixOf_append_ne (front : Text) {tail other : Text} {first second : Char}
    (apart : first ≠ second) :
    (front ++ first :: tail).isPrefixOf (front ++ second :: other) = false := by
  rw [Bool.eq_false_iff, ne_eq, List.isPrefixOf_iff_prefix, List.prefix_append_right_inj,
    List.cons_prefix_cons]
  exact fun both => apart both.1

theorem upstreamPrefix_eq :
    manager.upstreamPrefix = ['s'] ++ 'c' :: ("hain_".toList ++ (manager.schainName ++ ['_'])) := by
  have start : "schain_".toList = 's' :: 'c' :: "hain_".toList := rfl
  unfold upstreamPrefix
  rw [start]
  simp only [List.append_assoc, List.cons_append, List.nil_append]

theorem isPrefixOf_upstream (filename : Config.UpstreamConfigFilename) :
    manager.upstreamPrefix.isPrefixOf (manager.named filename).filename = true := by
  rw [filename_named, List.isPrefixOf_iff_prefix]
  exact List.prefix_append _ _

theorem isPrefixOf_skaled :
    manager.upstreamPrefix.isPrefixOf (skaledConfigFilename manager.schainName) = false := by
  have suffix : ".json".toList = '.' :: "json".toList := rfl
  unfold skaledConfigFilename upstreamPrefix
  rw [suffix]
  exact isPrefixOf_append_ne _ (by decide)

theorem isPrefixOf_external :
    manager.upstreamPrefix.isPrefixOf externalFilename = false := by
  have start : externalFilename = [] ++ 'e' :: "xternal.json".toList := rfl
  rw [upstreamPrefix_eq, start]
  exact isPrefixOf_append_ne [] (by decide)

theorem isPrefixOf_secretKey (rotationId : Nat) :
    manager.upstreamPrefix.isPrefixOf (secretKeyFilename rotationId) = false := by
  have start : "secret_key_".toList = 's' :: 'e' :: "cret_key_".toList := rfl
  have spelled : secretKeyFilename rotationId =
      ['s'] ++ 'e' :: ("cret_key_".toList ++ (str rotationId ++ ".json".toList)) := by
    unfold secretKeyFilename
    rw [start]
    simp only [List.append_assoc, List.cons_append, List.nil_append]
  rw [upstreamPrefix_eq, spelled]
  exact isPrefixOf_append_ne ['s'] (by decide)

theorem isPrefixOf_nameOf (path : FileName) :
    manager.upstreamPrefix.isPrefixOf (manager.nameOf path) = (upstreamOf path).isSome := by
  cases path with
  | upstream filename => exact isPrefixOf_upstream filename
  | skaled => exact isPrefixOf_skaled
  | external => exact isPrefixOf_external
  | secretKey rotationId => exact isPrefixOf_secretKey rotationId

def pathOf (manager : ConfigFileManager) (filename : Config.UpstreamConfigFilename) : Text :=
  join manager.dirname (manager.named filename).filename

theorem map_filter_nameOf (paths : List FileName) :
    ((paths.map manager.nameOf).filter fun name =>
        manager.upstreamPrefix.isPrefixOf name).map (join manager.dirname) =
      (paths.filterMap upstreamOf).map manager.pathOf := by
  induction paths with
  | nil => rfl
  | cons path paths ih =>
      rw [List.map_cons, List.filter_cons, isPrefixOf_nameOf]
      cases path with
      | upstream filename =>
          have head : upstreamOf (.upstream filename) = some filename := rfl
          rw [List.filterMap_cons_some head, head, Option.isSome_some, if_pos rfl, List.map_cons,
            List.map_cons, ih]
          rfl
      | skaled => exact ih
      | external => exact ih
      | secretKey rotationId => exact ih

theorem mapM_fromFilename (plain : '/' ∉ manager.schainName)
    (filenames : List Config.UpstreamConfigFilename) :
    (filenames.map manager.pathOf).mapM UpstreamConfigFilename.fromFilename =
      .ok (filenames.map manager.named) := by
  induction filenames with
  | nil => rfl
  | cons filename filenames ih =>
      have first : UpstreamConfigFilename.fromFilename (manager.pathOf filename) =
          .ok (manager.named filename) := UpstreamConfigFilename.fromFilename_join _ plain
      rw [List.map_cons, List.mapM_cons, first, ih]
      rfl

theorem mergeSort_mergeSort (filenames : List Config.UpstreamConfigFilename)
    (other : Config.UpstreamConfigFilename → Config.UpstreamConfigFilename → Bool) :
    (filenames.mergeSort other).mergeSort Config.UpstreamConfigFilename.le =
      filenames.mergeSort Config.UpstreamConfigFilename.le := by
  have sorted := fun filenames : List Config.UpstreamConfigFilename =>
    List.pairwise_mergeSort Config.UpstreamConfigFilename.le_trans
      Config.UpstreamConfigFilename.le_total filenames
  apply List.Perm.eq_of_pairwise _ (sorted _) (sorted _)
  · exact ((List.mergeSort_perm _ _).trans (List.mergeSort_perm _ _)).trans
      (List.mergeSort_perm _ _).symm
  · intro first second _ _
    exact Config.UpstreamConfigFilename.le_antisymm

/-- The upstreams that are found by their names are those that are there. -/
theorem getUpstreamConfigs_eq (plain : '/' ∉ manager.schainName) {files : Files}
    {paths : List FileName} (keys : files.keys = paths.map manager.nameOf) :
    manager.getUpstreamConfigs files = .ok ((upstreamConfigs paths).map manager.named) := by
  have spelled : manager.getFilesWithPrefix manager.upstreamPrefix files.keys =
      ((paths.filterMap upstreamOf).mergeSort fun first second =>
        manager.pathOf first ≤ manager.pathOf second).map manager.pathOf := by
    have sorted := List.map_mergeSort (l := paths.filterMap upstreamOf)
      (s := fun first second => decide (first ≤ second)) (f := manager.pathOf)
      fun _ _ _ _ => rfl
    rw [sorted, ← map_filter_nameOf, ← keys]
    rfl
  have found : ∀ filenames : List Config.UpstreamConfigFilename,
      (filenames.map manager.pathOf).filter (PyPattern.search manager.pattern) =
        filenames.map manager.pathOf := by
    intro filenames
    apply List.filter_eq_self.mpr
    intro path member
    obtain ⟨filename, _, rfl⟩ := List.mem_map.mp member
    exact search_filename filename
  unfold getUpstreamConfigs
  rw [spelled]
  dsimp only
  rw [found, mapM_fromFilename plain]
  apply congrArg Except.ok
  rw [← List.map_mergeSort fun first _ second _ => (le_named first second).symm,
    mergeSort_mergeSort]
  rfl

theorem latestUpstreamPath_eq (plain : '/' ∉ manager.schainName) {files : Files}
    {paths : List FileName} (keys : files.keys = paths.map manager.nameOf) :
    manager.latestUpstreamPath files =
      .ok ((latestUpstream paths).map fun filename => (manager.named filename).filename) := by
  unfold latestUpstreamPath
  rw [getUpstreamConfigs_eq plain keys]
  apply congrArg Except.ok
  rw [List.getLast?_map, Option.map_map]
  rfl

end ConfigFileManager

end SkaleAdmin.Config.Named
