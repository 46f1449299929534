import SkaleAdmin.Library.PyText
import Mathlib.Data.List.Infix

/-! `pattern.sub` on texts whose characters may carry marks, and what is left of a text. -/

namespace PySubstitution

open PyText

variable {α β : Type}

/-- For each match how far it is from the end of the one before it, and its length. -/
abbrev Matches := List (Nat × Nat)

def splice (replacement : List α) : Matches → List α → List α
  | [], cells => cells
  | (gap, length) :: others, cells =>
      cells.take gap ++ replacement ++ splice replacement others (cells.drop (gap + length))

/-- The length of the match at the beginning of a text, for patterns that do not look behind. -/
abbrev Matcher := Text → Option Nat

/-- The leftmost matches, where `skip` characters belong to the last one. -/
def scan (pattern : Matcher) : Nat → Nat → Text → Matches
  | _, _, [] => []
  | skip + 1, gap, _ :: text => scan pattern skip gap text
  | 0, gap, symbol :: text =>
      match pattern (symbol :: text) with
      | some (length + 1) => (gap, length + 1) :: scan pattern length 0 text
      | _ => scan pattern 0 (gap + 1) text

/-- `pattern.finditer(text)`. -/
def finditer (pattern : Matcher) (text : Text) : Matches :=
  scan pattern 0 0 text

def sub (symbol : α → Char) (pattern : Matcher) (replacement : List α) : Nat → List α → List α
  | _, [] => []
  | skip + 1, _ :: cells => sub symbol pattern replacement skip cells
  | 0, cell :: cells =>
      match pattern ((cell :: cells).map symbol) with
      | some (length + 1) => replacement ++ sub symbol pattern replacement length cells
      | _ => cell :: sub symbol pattern replacement 0 cells

def MatchesAt (pattern : Matcher) (text : Text) : Prop :=
  ∃ length, pattern text = some (length + 1)

section Substitution

variable {symbol : α → Char} {pattern : Matcher} {replacement : List α} {skip gap : Nat}
  {cell : α} {cells front back : List α}

@[simp] theorem sub_nil : sub symbol pattern replacement skip [] = [] := by
  rw [sub]

@[simp] theorem sub_succ : sub symbol pattern replacement (skip + 1) (cell :: cells) =
    sub symbol pattern replacement skip cells := by
  rw [sub]

theorem sub_of_match {length : Nat}
    (found : pattern ((cell :: cells).map symbol) = some (length + 1)) :
    sub symbol pattern replacement 0 (cell :: cells) =
      replacement ++ sub symbol pattern replacement length cells := by
  rw [sub, found]

theorem sub_of_not_match (none : ¬MatchesAt pattern ((cell :: cells).map symbol)) :
    sub symbol pattern replacement 0 (cell :: cells) =
      cell :: sub symbol pattern replacement 0 cells := by
  rw [sub]
  split
  · rename_i length found
    exact absurd ⟨length, found⟩ none
  · rfl

theorem scan_of_match {symbol : Char} {text : Text} {length : Nat}
    (found : pattern (symbol :: text) = some (length + 1)) :
    scan pattern 0 gap (symbol :: text) = (gap, length + 1) :: scan pattern length 0 text := by
  rw [scan, found]

theorem scan_of_not_match {symbol : Char} {text : Text}
    (none : ¬MatchesAt pattern (symbol :: text)) :
    scan pattern 0 gap (symbol :: text) = scan pattern 0 (gap + 1) text := by
  rw [scan]
  split
  · rename_i length found
    exact absurd ⟨length, found⟩ none
  · rfl

theorem splice_scan (length : front.length = gap) :
    splice replacement (scan pattern skip gap (cells.map symbol)) (front ++ cells.drop skip) =
      front ++ sub symbol pattern replacement skip cells := by
  induction cells generalizing skip gap front with
  | nil => simp [scan, splice]
  | cons cell cells ih =>
      cases skip with
      | succ skip =>
          rw [List.map_cons, scan, List.drop_succ_cons, sub_succ]
          exact ih length
      | zero =>
          by_cases found : MatchesAt pattern ((cell :: cells).map symbol)
          · obtain ⟨matched, found⟩ := found
            have rest : splice replacement (scan pattern matched 0 (cells.map symbol))
                ([] ++ cells.drop matched) = [] ++ sub symbol pattern replacement matched cells :=
              ih rfl
            rw [sub_of_match found, List.map_cons, scan_of_match found, splice, List.drop_zero,
              ← length, List.take_left, ← List.drop_drop, List.drop_left, List.drop_succ_cons]
            simpa using rest
          · have longer : (front ++ [cell]).length = gap + 1 := by simp [length]
            have rest : splice replacement (scan pattern 0 (gap + 1) (cells.map symbol))
                (front ++ [cell] ++ cells.drop 0) =
                  front ++ [cell] ++ sub symbol pattern replacement 0 cells := ih longer
            rw [sub_of_not_match found, List.map_cons, scan_of_not_match found]
            simpa using rest

theorem splice_finditer : splice replacement (finditer pattern (cells.map symbol)) cells =
    sub symbol pattern replacement 0 cells := by
  have whole : splice replacement (scan pattern 0 0 (cells.map symbol)) ([] ++ cells.drop 0) =
      [] ++ sub symbol pattern replacement 0 cells := splice_scan rfl
  exact whole

theorem sub_eq_drop : sub symbol pattern replacement skip cells =
    sub symbol pattern replacement 0 (cells.drop skip) := by
  induction cells generalizing skip with
  | nil => simp
  | cons cell cells ih =>
      cases skip with
      | zero => rfl
      | succ skip => rw [sub_succ, List.drop_succ_cons, ih]

theorem mem_sub (member : cell ∈ sub symbol pattern replacement skip cells) :
    cell ∈ replacement ∨ cell ∈ cells := by
  induction cells generalizing skip with
  | nil => simp at member
  | cons head cells ih =>
      cases skip with
      | succ skip => exact (ih (by simpa using member)).imp_right (List.mem_cons_of_mem _)
      | zero =>
          by_cases found : MatchesAt pattern ((head :: cells).map symbol)
          · obtain ⟨length, found⟩ := found
            rw [sub_of_match found, List.mem_append] at member
            rcases member with new | old
            · exact .inl new
            · exact (ih old).imp_right (List.mem_cons_of_mem _)
          · rw [sub_of_not_match found, List.mem_cons] at member
            rcases member with rfl | old
            · exact .inr List.mem_cons_self
            · exact (ih old).imp_right (List.mem_cons_of_mem _)

/-- No match reaches from the front into the back, or depends on it. -/
def Separated (pattern : Matcher) (front back : Text) : Prop :=
  ∀ rest, rest <:+ front → rest ≠ [] → ∀ length,
    (pattern (rest ++ back) = some (length + 1) ↔ pattern rest = some (length + 1)) ∧
    (pattern rest = some (length + 1) → length + 1 ≤ rest.length)

theorem sub_append (separated : Separated pattern (front.map symbol) (back.map symbol))
    (bound : skip ≤ front.length) :
    sub symbol pattern replacement skip (front ++ back) =
      sub symbol pattern replacement skip front ++ sub symbol pattern replacement 0 back := by
  induction front generalizing skip with
  | nil =>
      obtain rfl : skip = 0 := by simpa using bound
      simp
  | cons cell front ih =>
      have later : Separated pattern (front.map symbol) (back.map symbol) :=
        fun rest suffix => separated rest (suffix.trans (List.suffix_cons _ _))
      cases skip with
      | succ skip =>
          rw [List.cons_append, sub_succ, sub_succ]
          exact ih later (by simpa using bound)
      | zero =>
          have here := separated ((cell :: front).map symbol) (List.suffix_refl _) (by simp)
          by_cases found : MatchesAt pattern ((cell :: front).map symbol)
          · obtain ⟨length, found⟩ := found
            have short := (here length).2 found
            have whole : pattern ((cell :: (front ++ back)).map symbol) = some (length + 1) := by
              rw [← List.cons_append, List.map_append]
              exact (here length).1.mpr found
            rw [List.cons_append, sub_of_match whole, sub_of_match found, List.append_assoc,
              ih later (by simpa using short)]
          · have none : ¬MatchesAt pattern ((cell :: (front ++ back)).map symbol) := by
              rintro ⟨length, whole⟩
              rw [← List.cons_append, List.map_append] at whole
              exact found ⟨length, (here length).1.mp whole⟩
            rw [List.cons_append, sub_of_not_match none, sub_of_not_match found,
              List.cons_append, ih later (Nat.zero_le _)]

/-! ### Texts that do not occur -/

theorem kept_of_prefix {text : Text} {opening : Char}
    (opened : (replacement.map symbol).head? = some opening) (plain : opening ∉ text)
    (start : text <+: (sub symbol pattern replacement 0 cells).map symbol) :
    text <+: cells.map symbol ∧ (text ≠ [] → ¬MatchesAt pattern (cells.map symbol)) := by
  induction text generalizing cells with
  | nil => exact ⟨List.nil_prefix, fun filled => absurd rfl filled⟩
  | cons head text ih =>
      cases cells with
      | nil => simp at start
      | cons cell cells =>
          by_cases found : MatchesAt pattern ((cell :: cells).map symbol)
          · obtain ⟨length, found⟩ := found
            rw [sub_of_match found, List.map_append] at start
            cases shown : replacement.map symbol with
            | nil => simp [shown] at opened
            | cons first rest =>
                rw [shown, List.head?_cons] at opened
                rw [shown, List.cons_append, List.cons_prefix_cons] at start
                have same : head = opening := start.1.trans (Option.some.inj opened)
                exact absurd (by simp [same]) plain
          · rw [sub_of_not_match found, List.map_cons, List.cons_prefix_cons] at start
            obtain ⟨rfl, start⟩ := start
            have kept := (ih (fun member => plain (List.mem_cons_of_mem _ member)) start).1
            exact ⟨List.cons_prefix_cons.mpr ⟨rfl, kept⟩, fun _ => found⟩

/-- A text that occurs after a substitution, and neither in nor across what was put in, is one
that was kept. -/
theorem exists_prefix_of_infix {text : Text} {closing : Char}
    (closed : (replacement.map symbol).getLast? = some closing) (plain : closing ∉ text)
    (filled : text ≠ []) (new : ¬text <:+: replacement.map symbol)
    (occurs : text <:+: (sub symbol pattern replacement skip cells).map symbol) :
    ∃ count, text <+: (sub symbol pattern replacement 0 (cells.drop count)).map symbol := by
  induction cells generalizing skip with
  | nil => simp [filled] at occurs
  | cons cell cells ih =>
      cases skip with
      | succ skip =>
          rw [sub_succ] at occurs
          obtain ⟨count, start⟩ := ih occurs
          exact ⟨count + 1, start⟩
      | zero =>
          by_cases found : MatchesAt pattern ((cell :: cells).map symbol)
          · obtain ⟨length, found⟩ := found
            rw [sub_of_match found, List.map_append, List.infix_append_iff] at occurs
            rcases occurs with inside | later | ⟨front, back, rfl, suffix, start⟩
            · exact absurd inside new
            · obtain ⟨count, start⟩ := ih later
              exact ⟨count + 1, start⟩
            · cases parted : front.getLast? with
              | none =>
                  obtain rfl := List.getLast?_eq_none_iff.mp parted
                  obtain ⟨count, start⟩ := ih start.isInfix
                  exact ⟨count + 1, start⟩
              | some last =>
                  obtain ⟨others, whole⟩ := suffix
                  have ends : (replacement.map symbol).getLast? = some last := by
                    rw [← whole, List.getLast?_append, parted]
                    rfl
                  have same : last = closing := Option.some.inj (ends.symm.trans closed)
                  have member : last ∈ front := List.mem_of_getLast? parted
                  exact absurd (by simp [← same, member]) plain
          · rw [sub_of_not_match found, List.map_cons, List.infix_cons_iff] at occurs
            rcases occurs with start | later
            · refine ⟨0, ?_⟩
              rw [List.drop_zero, sub_of_not_match found]
              exact start
            · obtain ⟨count, start⟩ := ih later
              exact ⟨count + 1, start⟩

/-- What is put in begins and ends with characters that the text has not, and does not have
the text. -/
structure Foreign (text replacement : Text) : Prop where
  filled : text ≠ []
  opened : ∃ opening, replacement.head? = some opening ∧ opening ∉ text
  closed : ∃ closing, replacement.getLast? = some closing ∧ closing ∉ text
  absent : ¬text <:+: replacement

theorem Foreign.exists_kept {text : Text} (foreign : Foreign text (replacement.map symbol))
    (occurs : text <:+: (sub symbol pattern replacement skip cells).map symbol) :
    ∃ count, text <+: (cells.drop count).map symbol ∧
      ¬MatchesAt pattern ((cells.drop count).map symbol) := by
  obtain ⟨filled, ⟨opening, opened, first⟩, ⟨closing, closed, last⟩, absent⟩ := foreign
  obtain ⟨count, start⟩ := exists_prefix_of_infix closed last filled absent occurs
  obtain ⟨kept, clear⟩ := kept_of_prefix opened first start
  exact ⟨count, kept, clear filled⟩

theorem Foreign.hidden_sub {text : Text} (foreign : Foreign text (replacement.map symbol))
    (found : ∀ rest, MatchesAt pattern (text ++ rest)) :
    ¬text <:+: (sub symbol pattern replacement skip cells).map symbol := by
  intro occurs
  obtain ⟨count, ⟨rest, whole⟩, clear⟩ := foreign.exists_kept occurs
  apply clear
  rw [← whole]
  exact found rest

end Substitution

end PySubstitution
