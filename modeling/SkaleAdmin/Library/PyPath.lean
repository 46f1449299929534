import SkaleAdmin.Library.PyText

/-! Searching and cutting texts as Python does, and the names of files in paths. -/

namespace PyText

/-- A negative index counts from the end. -/
def position (length : Nat) (index : Int) : Nat :=
  if index < 0 then (length + index).toNat else index.toNat

/-- `text[start:stop]`. -/
def cut (text : Text) (start stop : Int) : Text :=
  slice text (position text.length start) (position text.length stop)

/-- `text.rfind(symbol)`, which is -1 where there is none. -/
def rfind (symbol : Char) (text : Text) : Int :=
  if symbol ∈ text then text.length - 1 - text.reverse.idxOf symbol else -1

/-- `text.replace(old, new, 1)`. -/
def replaceFirst (old new : Text) : Text → Text
  | [] => if old = [] then new else []
  | symbol :: rest =>
      if old.isPrefixOf (symbol :: rest) then new ++ (symbol :: rest).drop old.length
      else symbol :: replaceFirst old new rest

section Laws

variable {front back text : Text} {symbol : Char}

@[simp] theorem position_natCast (length index : Nat) : position length index = index := by
  unfold position
  rw [if_neg (by omega)]
  rfl

theorem cut_natCast (start stop : Nat) : cut text start stop = slice text start stop := by
  rw [cut, position_natCast, position_natCast]

theorem cut_left : cut (front ++ back) 0 front.length = front := by
  change cut (front ++ back) (0 : Nat) front.length = front
  rw [cut_natCast, slice_append_left (Nat.le_refl _), slice_all]

theorem cut_middle (middle : Text) : cut (front ++ symbol :: middle ++ back)
    (front.length + 1) (front ++ symbol :: middle).length = middle := by
  change cut _ ((front.length + 1 : Nat) : Int) _ = _
  rw [cut_natCast, slice_append_left (Nat.le_refl _), slice, List.take_length]
  simp [List.drop_append]

theorem cut_right : cut (front ++ symbol :: back) (front.length + 1)
    (front ++ symbol :: back).length = back := by
  have whole : cut (front ++ symbol :: back ++ []) (front.length + 1)
      (front ++ symbol :: back).length = back := cut_middle back
  rwa [List.append_nil] at whole

theorem rfind_append (last : symbol ∉ back) :
    rfind symbol (front ++ symbol :: back) = front.length := by
  have index : (front ++ symbol :: back).reverse.idxOf symbol = back.length := by
    rw [List.reverse_append, List.reverse_cons, List.append_assoc,
      List.idxOf_append_of_notMem (by simpa using last)]
    simp
  unfold rfind
  rw [if_pos (by simp), index]
  simp only [List.length_append, List.length_cons]
  omega

theorem replaceFirst_append (old new rest : Text) (some : old ≠ []) :
    replaceFirst old new (old ++ rest) = new ++ rest := by
  cases old with
  | nil => exact absurd rfl some
  | cons head tail =>
      have starts : (head :: tail).isPrefixOf (head :: (tail ++ rest)) = true := by
        simp [List.isPrefixOf_iff_prefix]
      rw [List.cons_append, replaceFirst, if_pos starts]
      simp

end Laws

/-! ### Paths -/

def join (directory name : Text) : Text :=
  if name.head? = some '/' then name
  else if directory = [] ∨ directory.getLast? = some '/' then directory ++ name
  else directory ++ '/' :: name

def fileName (path : Text) : Text :=
  path.drop (rfind '/' path + 1).toNat

def stem (path : Text) : Text :=
  let name := fileName path
  let dot := rfind '.' name
  if 0 < dot ∧ dot < name.length - 1 then name.take dot.toNat else name

section Paths

variable {directory name base : Text}

theorem rfind_of_notMem {symbol : Char} {text : Text} (absent : symbol ∉ text) :
    rfind symbol text = -1 :=
  if_neg absent

theorem fileName_append (plain : '/' ∉ name) : fileName (directory ++ '/' :: name) = name := by
  unfold fileName
  rw [rfind_append plain]
  have next : ((directory.length : Int) + 1).toNat = directory.length + 1 := rfl
  rw [next]
  simp [List.drop_append]

theorem fileName_of_notMem (plain : '/' ∉ name) : fileName name = name := by
  unfold fileName
  rw [rfind_of_notMem plain]
  rfl

theorem exists_join (directory name : Text) : ∃ front, join directory name = front ++ name := by
  unfold join
  split
  · exact ⟨[], rfl⟩
  · split
    · exact ⟨directory, rfl⟩
    · exact ⟨directory ++ ['/'], by simp⟩

theorem fileName_join (plain : '/' ∉ name) : fileName (join directory name) = name := by
  have relative : name.head? ≠ some '/' := by
    intro absolute
    exact plain (List.mem_of_mem_head? absolute)
  unfold join
  rw [if_neg relative]
  split
  · next ends =>
    rcases ends with rfl | slash
    · exact fileName_of_notMem plain
    · obtain ⟨front, rfl⟩ := List.getLast?_eq_some_iff.mp slash
      rw [List.append_assoc]
      exact fileName_append plain
  · exact fileName_append plain

theorem stem_join {suffix : Text} (plain : '/' ∉ base ++ '.' :: suffix) (started : base ≠ [])
    (suffixed : suffix ≠ []) (single : '.' ∉ suffix) :
    stem (join directory (base ++ '.' :: suffix)) = base := by
  unfold stem
  rw [fileName_join plain]
  dsimp only
  rw [rfind_append single]
  have front := List.length_pos_iff.mpr started
  have behind := List.length_pos_iff.mpr suffixed
  rw [if_pos]
  · simp
  · simp only [List.length_append, List.length_cons]
    omega

end Paths

end PyText
