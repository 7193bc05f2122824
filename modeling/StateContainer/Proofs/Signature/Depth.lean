/-
This file says how deep in brackets the places of a text are.

Brackets of both kinds count alike. A text is balanced if it closes as many brackets as it opens and
never closes more than it has opened. A bracket is never closed if behind it the text does not get
back to the depth in front of it; of several such brackets the first one is the outermost.
-/

import Mathlib.Order.Bounds.Basic
import StateContainer.Proofs.Signature.Grammar
import StateContainer.Signature.Union

namespace StateContainer.Signature

/-! ### Depth -/

/-- How many brackets a text opens more than it closes. -/
def depth : List Char → Int
  | [] => 0
  | c :: rest => depthChange c + depth rest

@[simp] theorem depth_nil : depth [] = 0 := rfl

theorem depth_cons (c : Char) (rest : List Char) :
    depth (c :: rest) = depthChange c + depth rest :=
  rfl

theorem depth_append (first second : List Char) :
    depth (first ++ second) = depth first + depth second := by
  induction first with
  | nil => rw [List.nil_append, depth_nil, Int.zero_add]
  | cons c rest inductionHypothesis =>
    rw [List.cons_append, depth_cons, depth_cons, inductionHypothesis, Int.add_assoc]

@[simp] theorem depthChange_opening (bracket : Bracket) : depthChange bracket.opening = 1 := by
  cases bracket <;> rfl

@[simp] theorem depthChange_closing (bracket : Bracket) : depthChange bracket.closing = -1 := by
  cases bracket <;> rfl

/-- A character that is no bracket leaves the depth as it is. -/
theorem depthChange_eq_zero_of_isSpecial_eq_false {c : Char} (ordinary : isSpecial c = false) :
    depthChange c = 0 := by
  have none : Token.ofChar? c = none :=
    Option.not_isSome_iff_eq_none.mp (Bool.eq_false_iff.mp ordinary)
  rw [depthChange, none]

/-- White space is no bracket and no comma. -/
theorem isSpecial_eq_false_of_isBlank {c : Char} (blank : Text.isBlank c = true) :
    isSpecial c = false := by
  rw [isSpecial, Token.ofChar?]
  split_ifs with less opening greater closing comma
  · exact absurd blank (by rw [less]; decide)
  · exact absurd blank (by rw [opening]; decide)
  · exact absurd blank (by rw [greater]; decide)
  · exact absurd blank (by rw [closing]; decide)
  · exact absurd blank (by rw [comma]; decide)
  · rfl

theorem depth_eq_zero_of_forall {text : List Char} (flat : ∀ c ∈ text, depthChange c = 0) :
    depth text = 0 := by
  induction text with
  | nil => rfl
  | cons c rest inductionHypothesis =>
    obtain ⟨here, later⟩ := List.forall_mem_cons.mp flat
    rw [depth_cons, here, inductionHypothesis later, Int.add_zero]

/-! ### Balanced texts -/

/-- Whether a text closes the brackets that it opens, and no others. -/
structure IsBalanced (text : List Char) : Prop where
  closed : depth text = 0
  nonneg : ∀ count, 0 ≤ depth (text.take count)

instance (text : List Char) : Decidable (IsBalanced text) :=
  decidable_of_iff (depth text = 0 ∧ ∀ count ≤ text.length, 0 ≤ depth (text.take count))
    ⟨fun ⟨closed, nonneg⟩ =>
      { closed
        nonneg := fun count => by
          rcases Nat.le_total count text.length with inside | beyond
          · exact nonneg count inside
          · rw [List.take_of_length_le beyond, closed] },
      fun balanced => ⟨balanced.closed, fun count _ => balanced.nonneg count⟩⟩

theorem isBalanced_of_forall {text : List Char} (flat : ∀ c ∈ text, depthChange c = 0) :
    IsBalanced text where
  closed := depth_eq_zero_of_forall flat
  nonneg _ :=
    (depth_eq_zero_of_forall fun c member => flat c (List.mem_of_mem_take member)).ge

theorem isBalanced_nil : IsBalanced [] :=
  isBalanced_of_forall (List.forall_mem_nil _)

theorem isRun_of_all {text : List Char} (all : (text.all fun c => !isSpecial c) = true) :
    IsRun text :=
  fun c member => by simpa using List.all_eq_true.mp all c member

/-- Runs have no brackets. -/
theorem IsRun.isBalanced {text : List Char} (plain : IsRun text) : IsBalanced text :=
  isBalanced_of_forall fun c member => depthChange_eq_zero_of_isSpecial_eq_false (plain c member)

theorem isBalanced_of_blank {text : List Char} (blank : ∀ c ∈ text, Text.isBlank c) :
    IsBalanced text :=
  IsRun.isBalanced fun c member => isSpecial_eq_false_of_isBlank (blank c member)

theorem IsBalanced.append {first second : List Char} (balanced : IsBalanced first)
    (others : IsBalanced second) : IsBalanced (first ++ second) where
  closed := by rw [depth_append, balanced.closed, others.closed, Int.add_zero]
  nonneg count := by
    rw [List.take_append, depth_append]
    exact Int.add_nonneg (balanced.nonneg count) (others.nonneg _)

/-- What stands between balanced texts is balanced if the whole is. -/
theorem IsBalanced.of_append_append {front text back : List Char} (balancedFront : IsBalanced front)
    (balancedBack : IsBalanced back) (balanced : IsBalanced (front ++ text ++ back)) :
    IsBalanced text := by
  have closed : depth text = 0 := by
    have whole := balanced.closed
    rwa [depth_append, depth_append, balancedFront.closed, balancedBack.closed, Int.zero_add,
      Int.add_zero] at whole
  refine ⟨closed, fun count => ?_⟩
  rcases Nat.le_total count text.length with inside | beyond
  · have nonneg := balanced.nonneg (front.length + count)
    rwa [List.append_assoc, List.take_length_add_append, depth_append, balancedFront.closed,
      Int.zero_add, List.take_append_of_le_length inside] at nonneg
  · rw [List.take_of_length_le beyond, closed]

/-- White space around a text has no part in its brackets. -/
theorem isBalanced_trim_iff {text : List Char} : IsBalanced (Text.trim text) ↔ IsBalanced text := by
  obtain ⟨front, back, split, blankFront, blankBack⟩ := Text.exists_eq_append_trim text
  have balancedFront := isBalanced_of_blank blankFront
  have balancedBack := isBalanced_of_blank blankBack
  constructor
  · intro balanced
    rw [split]
    exact (balancedFront.append balanced).append balancedBack
  · intro balanced
    rw [split] at balanced
    exact balancedFront.of_append_append balancedBack balanced

/-- A balanced text in brackets is balanced. -/
theorem IsBalanced.enclosed {text : List Char} (balanced : IsBalanced text)
    (opening closing : Bracket) : IsBalanced (opening.opening :: text ++ [closing.closing]) where
  closed := by
    rw [depth_append, depth_cons, balanced.closed, depth_cons, depthChange_opening,
      depthChange_closing]
    rfl
  nonneg count := by
    rw [List.take_append, depth_append]
    have last : -1 ≤ depth ([closing.closing].take (count - (opening.opening :: text).length)) := by
      rcases Nat.eq_zero_or_pos (count - (opening.opening :: text).length) with none | some
      · rw [none, List.take_zero, depth_nil]
        decide
      · rw [List.take_of_length_le some, depth_cons, depthChange_closing, depth_nil]
        decide
    cases count with
    | zero => rw [Nat.zero_sub, List.take_zero, List.take_zero]; decide
    | succ count =>
      have inner := balanced.nonneg count
      rw [List.take_succ_cons, depth_cons, depthChange_opening]
      omega

/-! ### Brackets that are never closed -/

/-- Whether the bracket at a position is opened and never closed. -/
structure IsUnclosed (text : List Char) (position : Nat) : Prop where
  opens : ∃ bracket : Bracket, text[position]? = some bracket.opening
  pos : ∀ count, 0 < depth ((text.drop position).take (count + 1))

/-- The first bracket that is never closed has a balanced text in front of it, and behind it only
brackets are closed that are opened there. -/
theorem isLeast_isUnclosed {front rest : List Char} (bracket : Bracket)
    (balanced : IsBalanced front) (nonneg : ∀ count, 0 ≤ depth (rest.take count)) :
    IsLeast {position | IsUnclosed (front ++ bracket.opening :: rest) position} front.length := by
  constructor
  · refine ⟨⟨bracket, ?_⟩, fun count => ?_⟩
    · rw [List.getElem?_append_right (Nat.le_refl _), Nat.sub_self]
      rfl
    · have behind := nonneg count
      rw [List.drop_left, List.take_succ_cons, depth_cons, depthChange_opening]
      omega
  · intro position unclosed
    by_contra before
    have inside : position < front.length := Nat.not_le.mp before
    -- From the position on, the text in front closes what it has opened before.
    have pos := unclosed.pos (front.length - position - 1)
    have whole : front.length - position - 1 + 1 = (front.drop position).length := by
      rw [List.length_drop]
      omega
    rw [whole, List.drop_append_of_le_length inside.le, List.take_left] at pos
    have parts : depth (front.take position) + depth (front.drop position) = 0 := by
      rw [← depth_append, List.take_append_drop, balanced.closed]
    have nonneg := balanced.nonneg position
    omega

/-- The text in which some lists are open, innermost first: in front of every bracket and behind the
last one the text is balanced, and the brackets stand at the positions of the lists. -/
inductive Unclosed : List Level → List Char → Prop where
  | nil {text : List Char} (balanced : IsBalanced text) : Unclosed [] text
  | cons {level : Level} {outer : List Level} {front own : List Char}
      (enclosing : Unclosed outer front) (place : level.position = front.length)
      (balanced : IsBalanced own) : Unclosed (level :: outer) (front ++ level.bracket.opening :: own)

/-- What is balanced opens no list and closes none. -/
theorem Unclosed.append {levels : List Level} {text more : List Char}
    (unclosed : Unclosed levels text) (balanced : IsBalanced more) :
    Unclosed levels (text ++ more) := by
  cases unclosed with
  | nil own => exact .nil (own.append balanced)
  | cons enclosing place own =>
    rw [List.append_assoc, List.cons_append]
    exact .cons enclosing place (own.append balanced)

/-- A closing bracket closes the innermost list. -/
theorem Unclosed.close {level : Level} {outer : List Level} {text : List Char}
    (unclosed : Unclosed (level :: outer) text) (bracket : Bracket) :
    Unclosed outer (text ++ [bracket.closing]) := by
  cases unclosed with
  | cons enclosing place own =>
    rw [List.append_assoc]
    exact enclosing.append (own.enclosed level.bracket bracket)

/-- The outermost of the open lists begins at the first bracket that is never closed. -/
theorem Unclosed.exists_split {levels : List Level} {text : List Char}
    (unclosed : Unclosed levels text) {outermost : Level}
    (last : levels.getLast? = some outermost) :
    ∃ front rest, text = front ++ outermost.bracket.opening :: rest ∧
      outermost.position = front.length ∧ IsBalanced front ∧
      ∀ count, 0 ≤ depth (rest.take count) := by
  induction unclosed with
  | nil => cases last
  | @cons level outer front own enclosing place balanced inductionHypothesis =>
    cases outer with
    | nil =>
      cases last
      cases enclosing with
      | nil balancedFront => exact ⟨front, own, rfl, place, balancedFront, balanced.nonneg⟩
    | cons next others =>
      rw [List.getLast?_cons_cons] at last
      obtain ⟨outside, rest, rfl, placeOutside, balancedOutside, nonneg⟩ := inductionHypothesis last
      refine ⟨outside, rest ++ level.bracket.opening :: own, ?_, placeOutside, balancedOutside, ?_⟩
      · rw [List.append_assoc, List.cons_append]
      · intro count
        rw [List.take_append, depth_append]
        refine Int.add_nonneg (nonneg count) ?_
        cases count - rest.length with
        | zero => exact le_refl 0
        | succ more =>
          have inner := balanced.nonneg more
          rw [List.take_succ_cons, depth_cons, depthChange_opening]
          omega

theorem Unclosed.isLeast {levels : List Level} {text : List Char} (unclosed : Unclosed levels text)
    {outermost : Level} (last : levels.getLast? = some outermost) :
    IsLeast {position | IsUnclosed text position} outermost.position := by
  obtain ⟨front, rest, rfl, place, balanced, nonneg⟩ := unclosed.exists_split last
  rw [place]
  exact isLeast_isUnclosed outermost.bracket balanced nonneg

end StateContainer.Signature
