import SkaleAdmin.Library.PySubstitution
import Mathlib.Logic.Relation

/-! Texts in which parts are replaced, and parts that the matches of a pattern spare. -/

namespace PySubstitution

open PyText

variable {α β : Type}

/-- One part of the text is replaced, by one of the labels. -/
inductive Rewrite (labels : List (List α)) : List α → List α → Prop
  | part (front part back : List α) {label : List α} : label ∈ labels →
      Rewrite labels (front ++ (part ++ back)) (front ++ (label ++ back))

abbrev Rewrites (labels : List (List α)) : List α → List α → Prop :=
  Relation.ReflTransGen (Rewrite labels)

section Rewrites

variable {labels others : List (List α)} {label front frontAfter back backAfter before after :
  List α}

theorem Rewrite.append_left (ahead : List α) (rewrite : Rewrite labels before after) :
    Rewrite labels (ahead ++ before) (ahead ++ after) := by
  cases rewrite with
  | part front part back listed =>
      rw [← List.append_assoc, ← List.append_assoc ahead]
      exact .part _ part back listed

theorem Rewrite.append_right (rest : List α) (rewrite : Rewrite labels before after) :
    Rewrite labels (before ++ rest) (after ++ rest) := by
  cases rewrite with
  | part front part back listed =>
      rw [List.append_assoc, List.append_assoc, List.append_assoc, List.append_assoc]
      exact .part front part (back ++ rest) listed

theorem Rewrites.ahead (rest : List α) (rewrites : Rewrites labels before after) :
    Rewrites labels (before ++ rest) (after ++ rest) :=
  rewrites.lift (· ++ rest) fun _ _ rewrite => rewrite.append_right rest

theorem Rewrites.behind (ahead : List α) (rewrites : Rewrites labels before after) :
    Rewrites labels (ahead ++ before) (ahead ++ after) :=
  rewrites.lift (ahead ++ ·) fun _ _ rewrite => rewrite.append_left ahead

theorem Rewrite.mono (listed : ∀ label ∈ labels, label ∈ others)
    (rewrite : Rewrite labels before after) : Rewrite others before after := by
  cases rewrite with
  | part front part back here => exact .part front part back (listed _ here)

theorem Rewrites.mono (listed : ∀ label ∈ labels, label ∈ others)
    (rewrites : Rewrites labels before after) : Rewrites others before after :=
  rewrites.lift id fun _ _ rewrite => rewrite.mono listed

theorem Rewrite.map (change : α → β) (rewrite : Rewrite labels before after) :
    Rewrite (labels.map (List.map change)) (before.map change) (after.map change) := by
  cases rewrite with
  | part front part back listed =>
      rw [List.map_append, List.map_append, List.map_append, List.map_append]
      exact .part _ _ _ (List.mem_map_of_mem listed)

theorem Rewrites.map (change : α → β) (rewrites : Rewrites labels before after) :
    Rewrites (labels.map (List.map change)) (before.map change) (after.map change) :=
  rewrites.lift (List.map change) fun _ _ rewrite => rewrite.map change

theorem Rewrites.eq_of_nil (rewrites : Rewrites [] before after) : after = before := by
  induction rewrites with
  | refl => rfl
  | tail _ rewrite _ =>
      cases rewrite with
      | part _ _ _ listed => exact absurd listed List.not_mem_nil

theorem Rewrites.all {property : α → Prop} (rewrites : Rewrites labels before after)
    (new : ∀ label ∈ labels, ∀ cell ∈ label, property cell)
    (old : ∀ cell ∈ before, property cell) : ∀ cell ∈ after, property cell := by
  induction rewrites with
  | refl => exact old
  | tail _ rewrite ih =>
      cases rewrite with
      | part front part back listed =>
          intro cell member
          rcases List.mem_append.mp member with here | later
          · exact ih cell (List.mem_append_left _ here)
          · rcases List.mem_append.mp later with label | rest
            · exact new _ listed cell label
            · exact ih cell (List.mem_append_right _ (List.mem_append_right _ rest))

theorem Rewrites.ne_nil (rewrites : Rewrites labels before after)
    (filled : ∀ label ∈ labels, label ≠ []) (some : before ≠ []) : after ≠ [] := by
  induction rewrites with
  | refl => exact some
  | tail _ rewrite _ =>
      cases rewrite with
      | part front part back listed =>
          exact List.append_ne_nil_of_right_ne_nil _
            (List.append_ne_nil_of_left_ne_nil (filled _ listed) _)

theorem rewrites_match (listed : label ∈ labels) (gap length : Nat) (cells : List α) :
    Rewrites labels cells (cells.take gap ++ (label ++ cells.drop (gap + length))) := by
  have parted : cells = cells.take gap ++ ((cells.drop gap).take length ++
      cells.drop (gap + length)) := by
    rw [← List.drop_drop, List.take_append_drop, List.take_append_drop]
  conv_lhs => rw [parted]
  exact .single (.part _ _ _ listed)

theorem rewrites_splice (listed : label ∈ labels) (found : Matches) (cells : List α) :
    Rewrites labels cells (splice label found cells) := by
  induction found generalizing cells with
  | nil => exact .refl
  | cons first found ih =>
      obtain ⟨gap, length⟩ := first
      have here := rewrites_match listed gap length cells
      rw [splice, List.append_assoc]
      exact here.trans (Rewrites.behind _ (Rewrites.behind _ (ih _)))

end Rewrites

/-! ### Texts that do not occur -/

theorem Foreign.absent_part {text label front back : Text} (foreign : Foreign text label)
    (kept : ¬text <:+: front ∧ ¬text <:+: back) : ¬text <:+: front ++ (label ++ back) := by
  obtain ⟨filled, ⟨opening, opened, first⟩, ⟨closing, closed, last⟩, absent⟩ := foreign
  intro occurs
  rcases List.infix_append_iff.mp occurs with before | after | ⟨start, rest, rfl, suffix, begun⟩
  · exact kept.1 before
  · rcases List.infix_append_iff.mp after with inside | later | ⟨start, rest, rfl, suffix, begun⟩
    · exact absent inside
    · exact kept.2 later
    · cases parted : start.getLast? with
      | none =>
          obtain rfl := List.getLast?_eq_none_iff.mp parted
          exact kept.2 begun.isInfix
      | some final =>
          obtain ⟨others, whole⟩ := suffix
          rw [← whole, List.getLast?_append, parted] at closed
          obtain rfl := Option.some.inj closed
          exact last (List.mem_append_left _ (List.mem_of_getLast? parted))
  · cases rest with
    | nil =>
        rw [List.append_nil] at kept
        exact kept.1 suffix.isInfix
    | cons head rest =>
        cases label with
        | nil => cases opened
        | cons letter label =>
            obtain rfl := (List.cons_prefix_cons.mp begun).1
            obtain rfl := Option.some.inj opened
            exact first (by simp)

/-- Labels do not bring forth a text that is foreign to them. -/
theorem Rewrites.absent {text before after : Text} {labels : List Text}
    (rewrites : Rewrites labels before after) (foreign : ∀ label ∈ labels, Foreign text label)
    (absent : ¬text <:+: before) : ¬text <:+: after := by
  induction rewrites with
  | refl => exact absent
  | tail _ rewrite ih =>
      cases rewrite with
      | part front part back listed =>
          apply (foreign _ listed).absent_part
          constructor
          · intro before
            exact ih (before.trans (List.prefix_append _ _).isInfix)
          · intro after
            exact ih ((after.trans (List.suffix_append _ _).isInfix).trans
              (List.suffix_append _ _).isInfix)

/-- A text that the pattern matches does not stay. -/
theorem Foreign.hidden_splice {text label cells : Text} {pattern : Matcher}
    (foreign : Foreign text label) (found : ∀ rest, MatchesAt pattern (text ++ rest)) :
    ¬text <:+: splice label (finditer pattern cells) cells := by
  have read : ∀ text : Text, text.map id = text := List.map_id
  have hidden : ¬text <:+: (sub id pattern label 0 cells).map id :=
    Foreign.hidden_sub (by rwa [read]) found
  rw [read, ← splice_finditer, read] at hidden
  exact hidden

/-! ### Parts that are spared -/

/-- Every match lies in front of the part, behind it, or takes the whole of it. -/
def Spares : (front length : Nat) → Matches → Prop
  | _, _, [] => True
  | front, length, (gap, taken) :: others =>
      gap + taken ≤ front ∧ Spares (front - (gap + taken)) length others ∨
        front + length ≤ gap ∨ gap ≤ front ∧ front + length ≤ gap + taken

theorem splice_spares {label front part back : List α} {found : Matches}
    (spares : Spares front.length part.length found) :
    (∃ frontAfter backAfter, splice label found (front ++ (part ++ back)) =
        frontAfter ++ (part ++ backAfter) ∧
      Rewrites [label] front frontAfter ∧ Rewrites [label] back backAfter) ∨
    Rewrites [label] (front ++ back) (splice label found (front ++ (part ++ back))) := by
  induction found generalizing front with
  | nil => exact .inl ⟨front, back, rfl, .refl, .refl⟩
  | cons first found ih =>
      obtain ⟨gap, taken⟩ := first
      have listed : label ∈ [label] := List.mem_singleton_self label
      rw [splice]
      rcases spares with ⟨before, later⟩ | behind | ⟨begun, ended⟩
      · -- The match lies in front, where what is left of the front is looked at next.
        have parted := rewrites_match listed gap taken front
        rw [List.take_append_of_le_length (by omega), List.drop_append_of_le_length before]
        rw [← List.length_drop] at later
        rcases ih later with ⟨frontAfter, backAfter, spliced, fronts, backs⟩ | rest
        · refine .inl ⟨front.take gap ++ label ++ frontAfter, backAfter, ?_, ?_, backs⟩
          · rw [spliced]
            simp only [List.append_assoc]
          · rw [List.append_assoc]
            exact parted.trans (Rewrites.behind _ (Rewrites.behind _ fronts))
        · refine .inr ?_
          have fronts := Rewrites.ahead back parted
          rw [List.append_assoc, List.append_assoc] at fronts
          rw [List.append_assoc]
          exact fronts.trans (Rewrites.behind _ (Rewrites.behind _ rest))
      · -- The match lies behind, and so do the later ones.
        obtain ⟨ahead, rfl⟩ := Nat.exists_eq_add_of_le behind
        have taking : (front ++ (part ++ back)).take (front.length + part.length + ahead) =
            front ++ (part ++ back.take ahead) := by
          rw [Nat.add_assoc, List.take_length_add_append, List.take_length_add_append]
        have dropping : (front ++ (part ++ back)).drop
            (front.length + part.length + ahead + taken) = back.drop (ahead + taken) := by
          rw [Nat.add_assoc, Nat.add_assoc, List.drop_length_add_append,
            List.drop_length_add_append]
        rw [taking, dropping]
        refine .inl ⟨front, back.take ahead ++ (label ++ splice label found
          (back.drop (ahead + taken))), by simp only [List.append_assoc], .refl, ?_⟩
        have whole := rewrites_splice listed ((ahead, taken) :: found) back
        rw [splice, List.append_assoc] at whole
        exact whole
      · refine .inr ?_
        obtain ⟨ahead, reached⟩ := Nat.exists_eq_add_of_le ended
        have dropping : (front ++ (part ++ back)).drop (gap + taken) = back.drop ahead := by
          rw [reached, Nat.add_assoc, List.drop_length_add_append, List.drop_length_add_append]
        rw [dropping, List.take_append_of_le_length begun, List.append_assoc]
        have parted : front ++ back = front.take gap ++
            ((front.drop gap ++ back.take ahead) ++ back.drop ahead) := by
          rw [List.append_assoc, List.take_append_drop, ← List.append_assoc,
            List.take_append_drop]
        rw [parted]
        exact Relation.ReflTransGen.trans (.single (.part _ _ _ listed))
          (Rewrites.behind _ (Rewrites.behind _ (rewrites_splice listed found _)))

theorem spares_of_gap {pattern : Matcher} {front length gap : Nat} (behind : front + length ≤ gap)
    (text : Text) : Spares front length (scan pattern 0 gap text) := by
  induction text generalizing gap with
  | nil => exact trivial
  | cons symbol text ih =>
      by_cases found : MatchesAt pattern (symbol :: text)
      · obtain ⟨taken, found⟩ := found
        rw [scan_of_match found]
        exact .inr (.inl behind)
      · rw [scan_of_not_match found]
        exact ih (by omega)

theorem spares_scan_part {pattern : Matcher} {part back : Text}
    (within : ∀ rest, rest <:+ part → rest ≠ [] → ¬MatchesAt pattern (rest ++ back))
    {front length gap : Nat} (behind : front + length ≤ gap + part.length) :
    Spares front length (scan pattern 0 gap (part ++ back)) := by
  induction part generalizing gap with
  | nil => exact spares_of_gap behind back
  | cons symbol part ih =>
      have none : ¬MatchesAt pattern (symbol :: (part ++ back)) :=
        within _ (List.suffix_refl _) (List.cons_ne_nil _ _)
      rw [List.cons_append, scan_of_not_match none]
      rw [List.length_cons] at behind
      exact ih (fun rest suffix => within rest (suffix.trans (List.suffix_cons _ _))) (by omega)

/-- A part is spared where no match begins in it or reaches into it. -/
theorem spares_finditer {pattern : Matcher} {front part back : Text}
    (before : ∀ rest, rest <:+ front → rest ≠ [] → ∀ length,
      pattern (rest ++ (part ++ back)) = some (length + 1) → length + 1 ≤ rest.length)
    (within : ∀ rest, rest <:+ part → rest ≠ [] → ¬MatchesAt pattern (rest ++ back)) :
    Spares front.length part.length (finditer pattern (front ++ (part ++ back))) := by
  have scanned : ∀ skip gap, skip ≤ front.length → Spares (gap + (front.length - skip))
      part.length (scan pattern skip gap (front ++ (part ++ back))) := by
    induction front with
    | nil =>
        intro skip gap bound
        obtain rfl : skip = 0 := by simpa using bound
        exact spares_scan_part within (by simp)
    | cons symbol front ih =>
        intro skip gap bound
        have shorter := ih fun rest suffix => before rest (suffix.trans (List.suffix_cons _ _))
        rw [List.length_cons] at bound ⊢
        cases skip with
        | succ skip =>
            rw [List.cons_append, scan, Nat.add_sub_add_right]
            exact shorter skip gap (by omega)
        | zero =>
            by_cases found : MatchesAt pattern (symbol :: (front ++ (part ++ back)))
            · obtain ⟨length, found⟩ := found
              have short : length + 1 ≤ front.length + 1 :=
                before _ (List.suffix_refl _) (List.cons_ne_nil _ _) length found
              rw [List.cons_append, scan_of_match found]
              refine .inl ⟨by omega, ?_⟩
              have rest := shorter length 0 (by omega)
              have same : gap + (front.length + 1 - 0) - (gap + (length + 1)) =
                  0 + (front.length - length) := by omega
              rw [same]
              exact rest
            · rw [List.cons_append, scan_of_not_match found]
              have rest := shorter 0 (gap + 1) (Nat.zero_le _)
              have same : gap + (front.length + 1 - 0) = gap + 1 + (front.length - 0) := by omega
              rw [same]
              exact rest
  have whole := scanned 0 0 (Nat.zero_le _)
  rwa [Nat.zero_add, Nat.sub_zero] at whole

theorem not_matchesAt_of_scan {pattern : Matcher} {text : Text} {gap : Nat}
    (none : scan pattern 0 gap text = []) :
    ∀ rest, rest <:+ text → rest ≠ [] → ¬MatchesAt pattern rest := by
  induction text generalizing gap with
  | nil =>
      intro rest suffix filled
      exact absurd (List.suffix_nil.mp suffix) filled
  | cons symbol text ih =>
      by_cases found : MatchesAt pattern (symbol :: text)
      · obtain ⟨length, found⟩ := found
        rw [scan_of_match found] at none
        cases none
      · rw [scan_of_not_match found] at none
        intro rest suffix filled
        rcases List.suffix_cons_iff.mp suffix with rfl | later
        · exact found
        · exact ih none rest later filled

end PySubstitution
