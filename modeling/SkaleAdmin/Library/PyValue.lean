import SkaleAdmin.Library.Json

/-! Python values of the built-in types whose dictionaries have strings or integers as keys:
`==` and the JSON image. -/

namespace PyValue

open PyText

inductive Key where
  | int (value : Int)
  | str (text : Text)
  deriving DecidableEq

/-- What `json.dump` makes of a key. -/
def Key.name : Key → Text
  | .int value => PyText.str value
  | .str text => text

/-- A dictionary lists its entries in their order. -/
inductive Value where
  | none
  | bool (value : Bool)
  | int (value : Int)
  | str (text : Text)
  | list (items : List Value)
  | tuple (items : List Value)
  | dict (entries : List (Key × Value))

mutual

/-- `first == second`, where the order of the entries of a dictionary does not matter and
`True` and `False` are the numbers one and zero. -/
def equal : Value → Value → Bool
  | .none, .none => true
  | .bool first, .bool second => first == second
  | .bool first, .int second => (if first then 1 else 0) == second
  | .int first, .bool second => first == if second then 1 else 0
  | .int first, .int second => first == second
  | .str first, .str second => first == second
  | .list first, .list second => equalItems first second
  | .tuple first, .tuple second => equalItems first second
  | .dict first, .dict second =>
      first.length == second.length && equalEntries first second
  | _, _ => false

def equalItems : List Value → List Value → Bool
  | [], [] => true
  | first :: firsts, second :: seconds =>
      equal first second && equalItems firsts seconds
  | _, _ => false

def equalEntries : List (Key × Value) → List (Key × Value) → Bool
  | [], _ => true
  | (key, value) :: entries, others =>
      (match others.lookup key with
        | some other => equal value other
        | none => false) && equalEntries entries others

end

/-! ### Dictionaries -/

def pop (key : Key) : List (Key × Value) → Option (Value × List (Key × Value))
  | [] => Option.none
  | (other, value) :: entries =>
      if other = key then some (value, entries)
      else (pop key entries).map fun (found, rest) => (found, (other, value) :: rest)

def assign (key : Key) (value : Value) : List (Key × Value) → List (Key × Value)
  | [] => [(key, value)]
  | (other, old) :: entries =>
      if other = key then (key, value) :: entries
      else (other, old) :: assign key value entries

def update (entries : List (Key × Value)) : List (Key × Value) → List (Key × Value)
  | [] => entries
  | (key, value) :: others => update (assign key value entries) others

variable {key : Key} {value : Value} {entries : List (Key × Value)}

@[simp] theorem pop_head : pop key ((key, value) :: entries) = some (value, entries) :=
  if_pos rfl

theorem assign_of_notMem (absent : key ∉ entries.map Prod.fst) :
    assign key value entries = entries ++ [(key, value)] := by
  induction entries with
  | nil => rfl
  | cons entry entries ih =>
      obtain ⟨other, old⟩ := entry
      simp only [List.map_cons, List.mem_cons, not_or] at absent
      rw [assign, if_neg (Ne.symm absent.1), ih absent.2]
      rfl

theorem mem_assign_self : (key, value) ∈ assign key value entries := by
  induction entries with
  | nil => exact List.mem_cons_self
  | cons entry entries ih =>
      obtain ⟨other, old⟩ := entry
      rw [assign]
      split
      · exact List.mem_cons_self
      · exact List.mem_cons_of_mem _ ih

theorem mem_assign_of_ne {entry : Key × Value} (member : entry ∈ entries)
    (apart : entry.1 ≠ key) : entry ∈ assign key value entries := by
  induction entries with
  | nil => cases member
  | cons first entries ih =>
      obtain ⟨other, old⟩ := first
      rw [assign]
      split
      · rename_i same
        rcases List.mem_cons.mp member with rfl | later
        · exact absurd same apart
        · exact List.mem_cons_of_mem _ later
      · rcases List.mem_cons.mp member with rfl | later
        · exact List.mem_cons_self
        · exact List.mem_cons_of_mem _ (ih later)

theorem mem_update_of_notMem {entry : Key × Value} {others : List (Key × Value)}
    (member : entry ∈ entries) (absent : entry.1 ∉ others.map Prod.fst) :
    entry ∈ update entries others := by
  induction others generalizing entries with
  | nil => exact member
  | cons other others ih =>
      obtain ⟨key, value⟩ := other
      simp only [List.map_cons, List.mem_cons, not_or] at absent
      exact ih (mem_assign_of_ne member absent.1) absent.2

theorem exists_mem_update {others : List (Key × Value)}
    (member : key ∈ entries.map Prod.fst ∨ key ∈ others.map Prod.fst) :
    ∃ value, (key, value) ∈ update entries others := by
  induction others generalizing entries with
  | nil =>
      rcases member with member | member
      · obtain ⟨⟨key, value⟩, listed, rfl⟩ := List.mem_map.mp member
        exact ⟨value, listed⟩
      · cases member
  | cons other others ih =>
      obtain ⟨first, value⟩ := other
      apply ih
      by_cases same : key = first
      · refine .inl (List.mem_map.mpr ⟨(first, value), mem_assign_self, same.symm⟩)
      · rcases member with member | member
        · obtain ⟨entry, listed, rfl⟩ := List.mem_map.mp member
          exact .inl (List.mem_map_of_mem (mem_assign_of_ne listed same))
        · rw [List.map_cons, List.mem_cons] at member
          exact .inr (member.resolve_left same)

theorem lookup_assign_of_ne {other : Key} (apart : other ≠ key) :
    (assign key value entries).lookup other = entries.lookup other := by
  induction entries with
  | nil =>
      rw [assign, List.lookup_cons, beq_false_of_ne apart]
  | cons entry entries ih =>
      obtain ⟨first, old⟩ := entry
      rw [assign]
      split
      · rename_i same
        subst same
        rw [List.lookup_cons, List.lookup_cons, beq_false_of_ne apart]
      · rw [List.lookup_cons, List.lookup_cons, ih]

theorem keys_assign (key : Key) (value : Value) (entries : List (Key × Value)) :
    (assign key value entries).map Prod.fst =
      if key ∈ entries.map Prod.fst then entries.map Prod.fst
      else entries.map Prod.fst ++ [key] := by
  induction entries with
  | nil => rfl
  | cons entry entries ih =>
      obtain ⟨other, old⟩ := entry
      rw [assign]
      by_cases here : other = key
      · simp [here]
      · rw [if_neg here, List.map_cons, ih]
        by_cases there : key ∈ entries.map Prod.fst
        · simp [there]
        · simp [there, Ne.symm here]

theorem mem_keys_assign {other : Key} :
    other ∈ (assign key value entries).map Prod.fst ↔
      other = key ∨ other ∈ entries.map Prod.fst := by
  rw [keys_assign]
  split
  · rename_i there
    constructor
    · exact .inr
    · rintro (rfl | member)
      · exact there
      · exact member
  · rw [List.mem_append, List.mem_singleton, or_comm]

theorem mem_keys_update {others : List (Key × Value)} :
    key ∈ (update entries others).map Prod.fst ↔
      key ∈ entries.map Prod.fst ∨ key ∈ others.map Prod.fst := by
  induction others generalizing entries with
  | nil => simp [update]
  | cons other others ih =>
      obtain ⟨first, value⟩ := other
      rw [update, ih, mem_keys_assign, List.map_cons, List.mem_cons]
      tauto

theorem nodup_keys_assign (distinct : (entries.map Prod.fst).Nodup) :
    ((assign key value entries).map Prod.fst).Nodup := by
  rw [keys_assign]
  split
  · exact distinct
  · rename_i absent
    refine List.nodup_append.mpr ⟨distinct, List.pairwise_singleton .., ?_⟩
    rintro other member _ last rfl
    exact absent (List.mem_singleton.mp last ▸ member)

theorem nodup_keys_update {others : List (Key × Value)}
    (distinct : (entries.map Prod.fst).Nodup) :
    ((update entries others).map Prod.fst).Nodup := by
  induction others generalizing entries with
  | nil => exact distinct
  | cons other others ih => exact ih (nodup_keys_assign distinct)

theorem lookup_assign_self (key : Key) (value : Value) (entries : List (Key × Value)) :
    (assign key value entries).lookup key = some value := by
  induction entries with
  | nil => exact List.lookup_cons_self
  | cons entry entries ih =>
      obtain ⟨first, old⟩ := entry
      rw [assign]
      split
      · exact List.lookup_cons_self
      · rename_i apart
        rw [List.lookup_cons, beq_false_of_ne (Ne.symm apart)]
        exact ih

theorem notMem_of_lookup (absent : entries.lookup key = none) : key ∉ entries.map Prod.fst := by
  intro member
  obtain ⟨entry, held, rfl⟩ := List.mem_map.mp member
  have apart := List.lookup_eq_none_iff.mp absent entry held
  rw [bne_self_eq_false] at apart
  cases apart

theorem lookup_update_of_notMem {other : Key} {others : List (Key × Value)}
    (absent : other ∉ others.map Prod.fst) :
    (update entries others).lookup other = entries.lookup other := by
  induction others generalizing entries with
  | nil => rfl
  | cons entry others ih =>
      rw [List.map_cons, List.mem_cons, not_or] at absent
      rw [update, ih absent.2, lookup_assign_of_ne absent.1]

theorem lookup_update_of_lookup {other : Key} {found : Value}
    {others : List (Key × Value)} (distinct : (others.map Prod.fst).Nodup)
    (held : others.lookup other = some found) :
    (update entries others).lookup other = some found := by
  induction others generalizing entries with
  | nil => cases held
  | cons entry others ih =>
      obtain ⟨key, value⟩ := entry
      rw [List.map_cons, List.nodup_cons] at distinct
      rw [List.lookup_cons] at held
      by_cases same : other = key
      · subst same
        rw [beq_self_eq_true] at held
        rw [update, lookup_update_of_notMem distinct.1, lookup_assign_self]
        exact held
      · rw [beq_false_of_ne same] at held
        exact ih distinct.2 held

theorem exists_lookup_update (entries : List (Key × Value)) {other : Key}
    {others : List (Key × Value)} (member : other ∈ others.map Prod.fst) :
    ∃ found, (other, found) ∈ others ∧ (update entries others).lookup other = some found := by
  induction others generalizing entries with
  | nil => cases member
  | cons entry others ih =>
      obtain ⟨key, value⟩ := entry
      by_cases later : other ∈ others.map Prod.fst
      · obtain ⟨found, held, looked⟩ := ih (assign key value entries) later
        exact ⟨found, List.mem_cons_of_mem _ held, looked⟩
      · obtain rfl : other = key := (List.mem_cons.mp member).resolve_right later
        refine ⟨value, List.mem_cons_self, ?_⟩
        rw [update, lookup_update_of_notMem later, lookup_assign_self]

theorem mem_update_of_mem {entry : Key × Value} {others : List (Key × Value)}
    (distinct : (others.map Prod.fst).Nodup) (member : entry ∈ others) :
    entry ∈ update entries others := by
  induction others generalizing entries with
  | nil => cases member
  | cons other others ih =>
      obtain ⟨key, value⟩ := other
      rw [List.map_cons, List.nodup_cons] at distinct
      rw [update]
      rcases List.mem_cons.mp member with rfl | later
      · exact mem_update_of_notMem mem_assign_self distinct.1
      · exact ih distinct.2 later

theorem mem_of_pop {entry : Key × Value} {found : Value} {rest : List (Key × Value)}
    (popped : pop key entries = some (found, rest)) (member : entry ∈ entries)
    (apart : entry.1 ≠ key) : entry ∈ rest := by
  induction entries generalizing rest with
  | nil => cases member
  | cons first entries ih =>
      obtain ⟨other, value⟩ := first
      rw [pop] at popped
      split at popped
      · rename_i same
        cases popped
        rcases List.mem_cons.mp member with rfl | later
        · exact absurd same apart
        · exact later
      · obtain ⟨⟨value', rest'⟩, taken, same⟩ := Option.map_eq_some_iff.mp popped
        cases same
        rcases List.mem_cons.mp member with rfl | later
        · exact List.mem_cons_self
        · exact List.mem_cons_of_mem _ (ih taken later)

/-! ### JSON -/

mutual

/-- What `json.dump` writes for a value. -/
def image : Value → Json.Value
  | .none => .null
  | .bool value => .bool value
  | .int value => .num value
  | .str text => .str text
  | .list items => .arr (imageItems items)
  | .tuple items => .arr (imageItems items)
  | .dict entries => .obj (imageEntries entries)

def imageItems : List Value → List Json.Value
  | [] => []
  | item :: items => image item :: imageItems items

def imageEntries : List (Key × Value) → List (Text × Json.Value)
  | [] => []
  | (key, value) :: entries => (key.name, image value) :: imageEntries entries

end

theorem mem_imageEntries (member : (key, value) ∈ entries) :
    (key.name, image value) ∈ imageEntries entries := by
  induction entries with
  | nil => cases member
  | cons entry entries ih =>
      obtain ⟨other, held⟩ := entry
      rw [imageEntries]
      rcases List.mem_cons.mp member with same | later
      · cases same
        exact List.mem_cons_self
      · exact List.mem_cons_of_mem _ (ih later)

theorem imageItems_eq_map (items : List Value) : imageItems items = items.map image := by
  induction items with
  | nil => rfl
  | cons item items ih => rw [imageItems, ih, List.map_cons]

mutual

/-- What `json.load` makes of a document. -/
def ofJson : Json.Value → Value
  | .null => .none
  | .bool value => .bool value
  | .num value => .int value
  | .str text => .str text
  | .arr items => .list (ofJsonItems items)
  | .obj fields => .dict (ofJsonFields fields)

def ofJsonItems : List Json.Value → List Value
  | [] => []
  | item :: items => ofJson item :: ofJsonItems items

def ofJsonFields : List (Text × Json.Value) → List (Key × Value)
  | [] => []
  | (name, value) :: fields => (.str name, ofJson value) :: ofJsonFields fields

end

mutual

def plain : Value → Bool
  | .list items => plainItems items
  | .tuple _ => false
  | .dict entries => plainEntries entries
  | _ => true

def plainItems : List Value → Bool
  | [] => true
  | item :: items => plain item && plainItems items

def plainEntries : List (Key × Value) → Bool
  | [] => true
  | (.str _, value) :: entries => plain value && plainEntries entries
  | (.int _, _) :: _ => false

end

theorem plainEntries_iff {entries : List (Key × Value)} :
    plainEntries entries = true ↔
      ∀ entry ∈ entries, (∃ name, entry.1 = .str name) ∧ plain entry.2 = true := by
  induction entries with
  | nil => simp [plainEntries]
  | cons entry entries ih =>
      obtain ⟨key, value⟩ := entry
      cases key with
      | int key => simp [plainEntries]
      | str name => simp [plainEntries, ih]

mutual

@[simp] theorem image_ofJson : ∀ value : Json.Value, image (ofJson value) = value
  | .null => rfl
  | .bool _ => rfl
  | .num _ => rfl
  | .str _ => rfl
  | .arr items => congrArg Json.Value.arr (imageItems_ofJsonItems items)
  | .obj fields => congrArg Json.Value.obj (imageEntries_ofJsonFields fields)

theorem imageItems_ofJsonItems : ∀ items : List Json.Value,
    imageItems (ofJsonItems items) = items
  | [] => rfl
  | item :: items => by
      rw [ofJsonItems, imageItems, image_ofJson item, imageItems_ofJsonItems items]

theorem imageEntries_ofJsonFields : ∀ fields : List (Text × Json.Value),
    imageEntries (ofJsonFields fields) = fields
  | [] => rfl
  | (name, value) :: fields => by
      rw [ofJsonFields, imageEntries, image_ofJson value, imageEntries_ofJsonFields fields]
      rfl

end

mutual

theorem ofJson_image : ∀ {value : Value}, plain value = true → ofJson (image value) = value
  | .none, _ => rfl
  | .bool _, _ => rfl
  | .int _, _ => rfl
  | .str _, _ => rfl
  | .list _, isPlain => congrArg Value.list (ofJsonItems_imageItems isPlain)
  | .tuple _, isPlain => nomatch isPlain
  | .dict _, isPlain => congrArg Value.dict (ofJsonFields_imageEntries isPlain)

theorem ofJsonItems_imageItems : ∀ {items : List Value}, plainItems items = true →
    ofJsonItems (imageItems items) = items
  | [], _ => rfl
  | item :: items, arePlain => by
      rw [plainItems, Bool.and_eq_true] at arePlain
      rw [imageItems, ofJsonItems, ofJson_image arePlain.1, ofJsonItems_imageItems arePlain.2]

theorem ofJsonFields_imageEntries : ∀ {entries : List (Key × Value)},
    plainEntries entries = true → ofJsonFields (imageEntries entries) = entries
  | [], _ => rfl
  | (.str name, value) :: entries, arePlain => by
      rw [plainEntries, Bool.and_eq_true] at arePlain
      rw [imageEntries, ofJsonFields, ofJson_image arePlain.1,
        ofJsonFields_imageEntries arePlain.2]
      rfl
  | (.int _, _) :: _, arePlain => nomatch arePlain

end

/-! ### Equality with what was read -/

theorem lookup_ofJsonFields_int (value : Int) (fields : List (Text × Json.Value)) :
    (ofJsonFields fields).lookup (.int value) = none := by
  induction fields with
  | nil => rfl
  | cons field fields ih =>
      obtain ⟨name, content⟩ := field
      have apart : Key.int value ≠ Key.str name := nofun
      rw [ofJsonFields, List.lookup_cons, beq_false_of_ne apart]
      exact ih

theorem lookup_ofJsonFields_str (name : Text) (fields : List (Text × Json.Value)) :
    (ofJsonFields fields).lookup (.str name) = (fields.lookup name).map ofJson := by
  induction fields with
  | nil => rfl
  | cons field fields ih =>
      obtain ⟨other, content⟩ := field
      rw [ofJsonFields, List.lookup_cons, List.lookup_cons]
      by_cases same : name = other
      · subst same
        simp
      · have apart : Key.str name ≠ Key.str other := fun equals => same (Key.str.inj equals)
        rw [beq_false_of_ne apart, beq_false_of_ne same]
        exact ih

mutual

theorem plain_of_equal : ∀ {value : Value} {read : Json.Value},
    equal value (ofJson read) = true → plain value = true
  | .none, _, _ => rfl
  | .bool _, _, _ => rfl
  | .int _, _, _ => rfl
  | .str _, _, _ => rfl
  | .list _, .arr _, same => plainItems_of_equal same
  | .tuple _, read, same => by cases read <;> cases same
  | .dict _, .obj _, same => plainEntries_of_equal (Bool.and_eq_true _ _ ▸ same).2

theorem plainItems_of_equal : ∀ {items : List Value} {read : List Json.Value},
    equalItems items (ofJsonItems read) = true → plainItems items = true
  | [], _, _ => rfl
  | item :: items, other :: others, same => by
      rw [ofJsonItems, equalItems, Bool.and_eq_true] at same
      rw [plainItems, plain_of_equal same.1, plainItems_of_equal same.2]
      rfl

theorem plainEntries_of_equal : ∀ {entries : List (Key × Value)}
    {read : List (Text × Json.Value)},
    equalEntries entries (ofJsonFields read) = true → plainEntries entries = true
  | [], _, _ => rfl
  | (.int key, value) :: entries, read, same => by
      rw [equalEntries, lookup_ofJsonFields_int] at same
      cases same
  | (.str name, value) :: entries, read, same => by
      rw [equalEntries, lookup_ofJsonFields_str, Bool.and_eq_true] at same
      rw [plainEntries, plainEntries_of_equal same.2, Bool.and_true]
      cases found : read.lookup name with
      | none =>
          rw [found] at same
          cases same.1
      | some content =>
          rw [found] at same
          exact plain_of_equal same.1

end

theorem length_ofJsonFields (fields : List (Text × Json.Value)) :
    (ofJsonFields fields).length = fields.length := by
  induction fields with
  | nil => rfl
  | cons field fields ih => simp [ofJsonFields, ih]

mutual

theorem equal_ofJson : ∀ first second : Json.Value,
    equal (ofJson first) (ofJson second) = Json.equal first second
  | .arr firsts, .arr seconds => equalItems_ofJsonItems firsts seconds
  | .obj firsts, .obj seconds => by
      rw [ofJson, ofJson, equal, Json.equal, length_ofJsonFields, length_ofJsonFields,
        equalEntries_ofJsonFields firsts seconds]
  | .null, second => by cases second <;> rfl
  | .bool _, second => by cases second <;> rfl
  | .num _, second => by cases second <;> rfl
  | .str _, second => by cases second <;> rfl
  | .arr _, .null => rfl
  | .arr _, .bool _ => rfl
  | .arr _, .num _ => rfl
  | .arr _, .str _ => rfl
  | .arr _, .obj _ => rfl
  | .obj _, .null => rfl
  | .obj _, .bool _ => rfl
  | .obj _, .num _ => rfl
  | .obj _, .str _ => rfl
  | .obj _, .arr _ => rfl

theorem equalItems_ofJsonItems : ∀ firsts seconds : List Json.Value,
    equalItems (ofJsonItems firsts) (ofJsonItems seconds) = Json.equalItems firsts seconds
  | [], [] => rfl
  | [], _ :: _ => rfl
  | _ :: _, [] => rfl
  | first :: firsts, second :: seconds => by
      rw [ofJsonItems, ofJsonItems, equalItems, Json.equalItems, equal_ofJson first second,
        equalItems_ofJsonItems firsts seconds]

theorem equalEntries_ofJsonFields : ∀ firsts seconds : List (Text × Json.Value),
    equalEntries (ofJsonFields firsts) (ofJsonFields seconds) =
      Json.equalFields firsts seconds
  | [], _ => rfl
  | (name, value) :: firsts, seconds => by
      rw [ofJsonFields, equalEntries, Json.equalFields, lookup_ofJsonFields_str,
        equalEntries_ofJsonFields firsts seconds]
      cases seconds.lookup name with
      | none => rfl
      | some other =>
          simp only [Option.map_some]
          rw [equal_ofJson value other]

end

/-- A value equals what was read if it is plain and its image is the document. -/
theorem equal_ofJson_iff {value : Value} {read : Json.Value} :
    equal value (ofJson read) = true ↔
      plain value = true ∧ Json.equal (image value) read = true := by
  constructor
  · intro same
    have isPlain := plain_of_equal same
    refine ⟨isPlain, ?_⟩
    rw [← equal_ofJson, ofJson_image isPlain]
    exact same
  · rintro ⟨isPlain, same⟩
    rw [← ofJson_image isPlain, equal_ofJson]
    exact same

end PyValue
