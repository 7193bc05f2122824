/-
This file says what is left of a union when the null type is taken out of it.

The bars that stand outside of all brackets separate the members, so if the brackets of every member
belong together, the members are what the text is cut into. White space around the text is part of
its first and of its last member, which are trimmed like all others.

A text that begins like an optional type and ends with a bracket is not cut at all. This is right if
its first bracket is closed by its last character; otherwise, as in `Optional[int] | list[str]`, what
is left has a bracket too many in the middle, which no union of such members has.
-/

import StateContainer.Proofs.Signature.Depth
import StateContainer.Text.Pieces

namespace StateContainer.Signature

/-! ### Bars -/

/-- There is at least one piece. -/
theorem unionMembers_ne_nil (start : Int) (text : List Char) : unionMembers start text ≠ [] := by
  cases text with
  | nil => exact List.cons_ne_nil _ _
  | cons c rest =>
    rw [unionMembers]
    split
    · exact List.cons_ne_nil _ _
    · split <;> exact List.cons_ne_nil _ _

/-- A bar outside of all brackets ends a piece. -/
theorem unionMembers_bar (rest : List Char) :
    unionMembers 0 ('|' :: rest) = [] :: unionMembers 0 rest := rfl

/-- Any other character belongs to the first piece. -/
theorem unionMembers_cons {start : Int} {c : Char} (inside : c = '|' → start ≠ 0)
    (rest : List Char) :
    unionMembers start (c :: rest) =
      (unionMembers (start + depthChange c) rest).modifyHead (c :: ·) := by
  have noBar : ¬ (c = '|' && start + depthChange c = 0) = true := by
    rw [Bool.and_eq_true, decide_eq_true_eq, decide_eq_true_eq]
    rintro ⟨rfl, outside⟩
    exact inside rfl ((Int.add_zero start).symm.trans outside)
  rw [unionMembers, if_neg noBar]
  cases cut : unionMembers (start + depthChange c) rest with
  | nil => exact absurd cut (unionMembers_ne_nil _ _)
  | cons first others => rfl

/-- Whether no bar of a text stands outside of all brackets, if some are open in front of it. -/
def HidesBars (start : Int) (text : List Char) : Prop :=
  ∀ count, text[count]? = some '|' → start + depth (text.take count) ≠ 0

theorem hidesBars_of_not_mem {text : List Char} (free : '|' ∉ text) (start : Int) :
    HidesBars start text :=
  fun _ here => absurd (List.mem_of_getElem? here) free

/-- In brackets a balanced text hides its bars. -/
theorem IsBalanced.hidesBars {text : List Char} (balanced : IsBalanced text) : HidesBars 1 text := by
  intro count _
  have nonneg := balanced.nonneg count
  omega

theorem HidesBars.append {start : Int} {first second : List Char} (hides : HidesBars start first)
    (others : HidesBars (start + depth first) second) : HidesBars start (first ++ second) := by
  intro count here
  rcases Nat.lt_or_ge count first.length with inside | behind
  · rw [List.getElem?_append_left inside] at here
    rw [List.take_append_of_le_length inside.le]
    exact hides count here
  · rw [List.getElem?_append_right behind] at here
    rw [List.take_append, List.take_of_length_le behind, depth_append, ← Int.add_assoc]
    exact others _ here

/-- A text without bars outside of brackets goes on with the first piece of what follows it. -/
theorem HidesBars.unionMembers_append {start : Int} {text : List Char} (hides : HidesBars start text)
    (rest : List Char) :
    unionMembers start (text ++ rest) =
      (unionMembers (start + depth text) rest).modifyHead (text ++ ·) := by
  induction text generalizing start with
  | nil =>
    rw [depth_nil, Int.add_zero, List.nil_append]
    cases unionMembers start rest <;> rfl
  | cons c text inductionHypothesis =>
    have here : c = '|' → start ≠ 0 := by
      rintro rfl
      have outside := hides 0 rfl
      rwa [List.take_zero, depth_nil, Int.add_zero] at outside
    have later : HidesBars (start + depthChange c) text := by
      intro count here
      have outside := hides (count + 1) here
      rwa [List.take_succ_cons, depth_cons, ← Int.add_assoc] at outside
    rw [List.cons_append, unionMembers_cons here, inductionHypothesis later, depth_cons,
      Int.add_assoc, List.modifyHead_modifyHead]
    rfl

/-- A text without bars outside of brackets is one piece. -/
theorem HidesBars.unionMembers_eq {text : List Char} (hides : HidesBars 0 text) :
    unionMembers 0 text = [text] := by
  have whole := hides.unionMembers_append []
  rw [List.append_nil, unionMembers, List.modifyHead_cons, List.append_nil] at whole
  exact whole

/-! ### Members -/

/-- Whether a text can be a member of a union: its brackets belong together and hide its bars. -/
structure IsMember (text : List Char) : Prop where
  balanced : IsBalanced text
  hides : HidesBars 0 text

instance (start : Int) (text : List Char) : Decidable (HidesBars start text) :=
  decidable_of_iff
    (∀ count < text.length, text[count]? = some '|' → start + depth (text.take count) ≠ 0)
    ⟨fun hides count here => hides count (List.getElem?_eq_some_iff.mp here).1 here,
      fun hides count _ => hides count⟩

instance (text : List Char) : Decidable (IsMember text) :=
  decidable_of_iff (IsBalanced text ∧ HidesBars 0 text)
    ⟨fun ⟨balanced, hides⟩ => ⟨balanced, hides⟩, fun member => ⟨member.balanced, member.hides⟩⟩

/-- The members of a union are what its text is cut into. -/
theorem unionMembers_joined {members : List (List Char)} (nonempty : members ≠ [])
    (each : ∀ member ∈ members, IsMember member) :
    unionMembers 0 (Text.joined '|' members) = members := by
  induction members with
  | nil => exact absurd rfl nonempty
  | cons first others inductionHypothesis =>
    obtain ⟨here, later⟩ := List.forall_mem_cons.mp each
    cases others with
    | nil => exact here.hides.unionMembers_eq
    | cons next rest =>
      rw [Text.joined, here.hides.unionMembers_append, here.balanced.closed, Int.add_zero,
        unionMembers_bar, inductionHypothesis (List.cons_ne_nil _ _) later, List.modifyHead_cons,
        List.append_nil]

/-! ### White space around the text -/

/-- White space has no bars and no brackets. -/
theorem hidesBars_of_blank {text : List Char} (blank : ∀ c ∈ text, Text.isBlank c) (start : Int) :
    HidesBars start text :=
  hidesBars_of_not_mem (fun member => absurd (blank '|' member) (by decide)) start

/-- What follows a text without bars goes on with its last piece. -/
theorem exists_unionMembers_append {back : List Char} (free : '|' ∉ back) (start : Int)
    (text : List Char) :
    ∃ earlier last, unionMembers start text = earlier ++ [last] ∧
      unionMembers start (text ++ back) = earlier ++ [last ++ back] := by
  induction text generalizing start with
  | nil =>
    refine ⟨[], [], rfl, ?_⟩
    have whole := (hidesBars_of_not_mem free start).unionMembers_append []
    rw [List.append_nil, unionMembers, List.modifyHead_cons, List.append_nil] at whole
    exact whole
  | cons c rest inductionHypothesis =>
    obtain ⟨earlier, last, cut, whole⟩ := inductionHypothesis (start + depthChange c)
    by_cases bar : c = '|' ∧ start = 0
    · obtain ⟨rfl, rfl⟩ := bar
      exact ⟨[] :: earlier, last, congrArg ([] :: ·) cut, congrArg ([] :: ·) whole⟩
    · have inside : c = '|' → start ≠ 0 := fun same outside => bar ⟨same, outside⟩
      rw [List.cons_append, unionMembers_cons inside, unionMembers_cons inside, cut, whole]
      cases earlier with
      | nil => exact ⟨[], c :: last, rfl, rfl⟩
      | cons first others => exact ⟨(c :: first) :: others, last, rfl, rfl⟩

/-- White space around a text does not change its trimmed pieces. -/
theorem map_trim_unionMembers_trim (text : List Char) :
    (unionMembers 0 (Text.trim text)).map Text.trim = (unionMembers 0 text).map Text.trim := by
  obtain ⟨front, back, split, blankFront, blankBack⟩ := Text.exists_eq_append_trim text
  have free : '|' ∉ back := fun member => absurd (blankBack '|' member) (by decide)
  obtain ⟨earlier, last, cut, whole⟩ := exists_unionMembers_append free 0 (Text.trim text)
  have noFront (piece : List Char) : Text.trim (front ++ piece) = Text.trim piece := by
    have surrounded := Text.trim_append_append blankFront (List.forall_mem_nil _) piece
    rwa [List.append_nil] at surrounded
  have noBack : Text.trim (last ++ back) = Text.trim last :=
    Text.trim_append_append (List.forall_mem_nil _) blankBack last
  conv_rhs => rw [split, List.append_assoc]
  rw [(hidesBars_of_blank blankFront 0).unionMembers_append,
    (isBalanced_of_blank blankFront).closed, Int.add_zero, cut, whole]
  cases earlier with
  | nil => simp only [List.nil_append, List.modifyHead_cons, List.map_cons, List.map_nil, noFront, noBack]
  | cons first others =>
    simp only [List.cons_append, List.modifyHead_cons, List.map_cons, List.map_append, List.map_nil,
      noFront, noBack]

/-! ### Optional types -/

/-- Whether a text is one of the optional forms from its start to its last character, around some
argument. -/
def LooksOptional (text argument : List Char) : Prop :=
  ∃ form ∈ optionalForms, text = form.toList ++ argument ++ [']']

/-- An optional form is a name and an opening bracket. -/
theorem exists_name_of_mem_optionalForms {form : String} (known : form ∈ optionalForms) :
    ∃ name, form.toList = name ++ ['['] ∧ (∀ c ∈ name, isSpecial c = false) ∧ '|' ∉ name := by
  rcases List.mem_pair.mp known with rfl | rfl
  · exact ⟨"Optional".toList, rfl, isRun_of_all (by decide), by decide⟩
  · exact ⟨"typing.Optional".toList, rfl, isRun_of_all (by decide), by decide⟩

/-- A text that looks like an optional type does so with one argument only. -/
theorem LooksOptional.unique {text first second : List Char} (looks : LooksOptional text first)
    (alike : LooksOptional text second) : first = second := by
  obtain ⟨form, known, rfl⟩ := looks
  obtain ⟨other, knownOther, same⟩ := alike
  have sameFront := List.append_inj_left' same rfl
  rcases List.mem_pair.mp known with rfl | rfl <;>
    rcases List.mem_pair.mp knownOther with rfl | rfl
  · exact List.append_cancel_left sameFront
  · cases sameFront
  · cases sameFront
  · exact List.append_cancel_left sameFront

/-- What is taken out of a text is the argument that it looks to have. -/
theorem exists_looksOptional {text found : List Char}
    (taken : optionalArgument? text = some found) :
    ∃ argument, LooksOptional text argument ∧ found = Text.trim argument := by
  obtain ⟨form, known, taken⟩ := List.exists_of_findSome?_eq_some taken
  obtain ⟨name, named, -⟩ := exists_name_of_mem_optionalForms known
  split at taken
  next looks =>
    rw [Bool.and_eq_true, List.isPrefixOf_iff_prefix, decide_eq_true_eq] at looks
    obtain ⟨⟨rest, rfl⟩, last⟩ := looks
    rcases List.eq_nil_or_concat rest with rfl | ⟨argument, c, rfl⟩
    · rw [List.append_nil, named, List.getLast?_concat] at last
      cases last
    · rw [List.concat_eq_append, ← List.append_assoc, List.getLast?_concat] at last
      cases last
      rw [List.drop_left, List.concat_eq_append, List.dropLast_concat] at taken
      refine ⟨argument, ⟨form, known, ?_⟩, (Option.some.inj taken).symm⟩
      rw [List.concat_eq_append, List.append_assoc]
  · cases taken

/-- The argument is taken out of every text that looks like an optional type. -/
theorem LooksOptional.optionalArgument?_eq {text argument : List Char}
    (looks : LooksOptional text argument) :
    optionalArgument? text = some (Text.trim argument) := by
  cases taken : optionalArgument? text with
  | some found =>
    obtain ⟨other, alike, rfl⟩ := exists_looksOptional taken
    rw [looks.unique alike]
  | none =>
    obtain ⟨form, known, rfl⟩ := looks
    have untaken := List.findSome?_eq_none_iff.mp taken form known
    rw [if_pos] at untaken
    · cases untaken
    · rw [Bool.and_eq_true, List.isPrefixOf_iff_prefix, decide_eq_true_eq, List.getLast?_concat,
        List.append_assoc]
      exact ⟨List.prefix_append _ _, rfl⟩

/-- The bars of an optional type are those of its argument, in brackets. -/
theorem LooksOptional.hidesBars {text argument : List Char} (looks : LooksOptional text argument)
    (balanced : IsBalanced argument) : HidesBars 0 text := by
  obtain ⟨form, known, rfl⟩ := looks
  obtain ⟨name, named, plain, free⟩ := exists_name_of_mem_optionalForms known
  have freeForm : '|' ∉ form.toList := by
    rw [named]
    exact fun member => (List.mem_append.mp member).elim free (by decide)
  have opened : depth form.toList = 1 := by
    rw [named, depth_append, (IsRun.isBalanced plain).closed]
    rfl
  have inner : HidesBars (0 + depth form.toList) argument := by
    rw [opened]
    exact balanced.hidesBars
  exact ((hidesBars_of_not_mem freeForm 0).append inner).append
    (hidesBars_of_not_mem (by decide) _)

/-! ### What is left of a union -/

/-- The members of a union that are not the null type, trimmed. -/
def otherMembers (members : List (List Char)) : List (List Char) :=
  (members.map Text.trim).filter (· ≠ nullMember)

/-- What a union is without the null type, and whether the null type is among its members. -/
inductive Splits (members : List (List Char)) : String × Bool → Prop where
  /-- A single member is an optional type: its first bracket is closed by its last character. -/
  | optional {member argument : List Char} (single : members = [member])
      (looks : LooksOptional (Text.trim member) argument) (balanced : IsBalanced argument) :
      Splits members (String.ofList (Text.trim argument), true)
  | union (plain : ∀ member argument, members = [member] →
      LooksOptional (Text.trim member) argument → ¬ IsBalanced argument) :
      Splits members (" | ".intercalate ((otherMembers members).map String.ofList),
        decide (nullMember ∈ members.map Text.trim))

/-- Whether the text of a union looks like an optional type, though its first bracket is closed
before its last character. -/
def LooksMistaken (members : List (List Char)) : Prop :=
  ∃ argument, LooksOptional (Text.trim (Text.joined '|' members)) argument ∧ ¬ IsBalanced argument

/-- Some entries are left out exactly if one is among them. -/
theorem length_otherMembers_ne_iff (members : List (List Char)) :
    (otherMembers members).length ≠ (members.map Text.trim).length ↔
      nullMember ∈ members.map Text.trim := by
  rw [otherMembers, Ne, List.length_filter_eq_length_iff]
  simp

theorem isBalanced_intercalate {separator : List Char} (between : IsBalanced separator)
    {parts : List (List Char)} (each : ∀ part ∈ parts, IsBalanced part) :
    IsBalanced (separator.intercalate parts) := by
  induction parts with
  | nil => exact isBalanced_nil
  | cons first others inductionHypothesis =>
    obtain ⟨here, later⟩ := List.forall_mem_cons.mp each
    cases others with
    | nil =>
      rw [List.intercalate_singleton]
      exact here
    | cons next rest =>
      rw [List.intercalate_cons_cons]
      exact (here.append between).append (inductionHypothesis later)

section
variable {members : List (List Char)}

/-- What is left of balanced members is balanced. -/
theorem isBalanced_otherMembers (each : ∀ member ∈ members, IsMember member) :
    IsBalanced (" | ".intercalate ((otherMembers members).map String.ofList)).toList := by
  have parts : ((otherMembers members).map String.ofList).map String.toList =
      otherMembers members := by
    simp only [List.map_map, Function.comp_def, String.toList_ofList, List.map_id']
  rw [String.toList_intercalate, parts]
  refine isBalanced_intercalate (isRun_of_all (by decide)).isBalanced fun part left => ?_
  obtain ⟨member, given, rfl⟩ := List.mem_map.mp (List.mem_of_mem_filter left)
  exact isBalanced_trim_iff.mpr (each member given).balanced

/-- A union that does not look like an optional type is cut into its members. -/
theorem splitOptional_eq_of_cut (nonempty : members ≠ [])
    (each : ∀ member ∈ members, IsMember member)
    (plain : optionalArgument? (Text.trim (Text.joined '|' members)) = none) :
    splitOptional (String.ofList (Text.joined '|' members)) =
      (" | ".intercalate ((otherMembers members).map String.ofList),
        decide (nullMember ∈ members.map Text.trim)) := by
  have parts : (unionMembers 0 (Text.trim (Text.joined '|' members))).map Text.trim =
      members.map Text.trim := by
    rw [map_trim_unionMembers_trim, unionMembers_joined nonempty each]
  rw [splitOptional, String.toList_ofList, plain]
  dsimp only
  rw [parts]
  exact congrArg (Prod.mk _) (decide_eq_decide.mpr (length_otherMembers_ne_iff members))

/-- A text that looks like an optional type is not cut. -/
theorem LooksOptional.splitOptional_eq {text argument : List Char}
    (looks : LooksOptional (Text.trim text) argument) :
    splitOptional (String.ofList text) = (String.ofList (Text.trim argument), true) := by
  rw [splitOptional, String.toList_ofList, looks.optionalArgument?_eq]

/-- A union whose text is an optional type has a single member. -/
theorem LooksOptional.exists_single (nonempty : members ≠ [])
    (each : ∀ member ∈ members, IsMember member) {argument : List Char}
    (looks : LooksOptional (Text.trim (Text.joined '|' members)) argument)
    (balanced : IsBalanced argument) : ∃ member, members = [member] := by
  have parts := map_trim_unionMembers_trim (Text.joined '|' members)
  rw [unionMembers_joined nonempty each, (looks.hidesBars balanced).unionMembers_eq] at parts
  have count := congrArg List.length parts
  rw [List.length_map, List.length_map, List.length_singleton] at count
  exact List.length_eq_one_iff.mp count.symm

/-- The null type is taken out of every union whose text is not mistaken for an optional type. -/
theorem splits_of_not_looksMistaken (nonempty : members ≠ [])
    (each : ∀ member ∈ members, IsMember member) (clear : ¬ LooksMistaken members) :
    Splits members (splitOptional (String.ofList (Text.joined '|' members))) := by
  cases taken : optionalArgument? (Text.trim (Text.joined '|' members)) with
  | none =>
    rw [splitOptional_eq_of_cut nonempty each taken]
    refine .union fun member argument single looks _ => ?_
    subst single
    rw [Text.joined, looks.optionalArgument?_eq] at taken
    cases taken
  | some found =>
    obtain ⟨argument, looks, -⟩ := exists_looksOptional taken
    have balanced : IsBalanced argument := by
      by_contra unbalanced
      exact clear ⟨argument, looks, unbalanced⟩
    obtain ⟨member, rfl⟩ := looks.exists_single nonempty each balanced
    rw [looks.splitOptional_eq]
    exact .optional rfl looks balanced

/-- Of a union whose text is mistaken for an optional type something else is left. -/
theorem LooksMistaken.not_splits (each : ∀ member ∈ members, IsMember member)
    (mistaken : LooksMistaken members) :
    ¬ Splits members (splitOptional (String.ofList (Text.joined '|' members))) := by
  obtain ⟨argument, looks, unbalanced⟩ := mistaken
  rw [looks.splitOptional_eq]
  intro splits
  -- The brackets of what is left do not belong together, those of the members do.
  generalize result : (String.ofList (Text.trim argument), true) = left at splits
  cases splits with
  | @optional member own single looksSingle balanced =>
    subst single
    rw [looks.unique looksSingle] at unbalanced
    exact unbalanced balanced
  | union plain =>
    have same := (Prod.mk.inj result).1
    have balanced := isBalanced_otherMembers each
    rw [← same, String.toList_ofList] at balanced
    exact unbalanced (isBalanced_trim_iff.mp balanced)

/-- The null type is taken out of a union exactly if the text of the union does not look like an
optional type, or is one from its first bracket to its last character. -/
theorem splits_splitOptional_iff (nonempty : members ≠ [])
    (each : ∀ member ∈ members, IsMember member) :
    Splits members (splitOptional (String.ofList (Text.joined '|' members))) ↔
      ¬ LooksMistaken members :=
  ⟨fun splits mistaken => mistaken.not_splits each splits,
    splits_of_not_looksMistaken nonempty each⟩

end

/-- A bar in brackets separates no members, and the null type may be the last of them. -/
theorem splits_splitOptional_nested :
    (∀ member ∈ ["dict[str, int | None] ".toList, " None".toList], IsMember member) ∧
      Splits ["dict[str, int | None] ".toList, " None".toList]
        (splitOptional "dict[str, int | None] | None") := by
  have each : ∀ member ∈ ["dict[str, int | None] ".toList, " None".toList], IsMember member := by
    decide
  refine ⟨each, (splits_splitOptional_iff (List.cons_ne_nil _ _) each).mpr ?_⟩
  rintro ⟨argument, looks, -⟩
  have taken := looks.optionalArgument?_eq
  rw [show optionalArgument? _ = none by decide] at taken
  cases taken

/-- What is left of a union that begins with an optional type and ends with a bracket is no union. -/
theorem exists_not_splits :
    ¬ ∀ members : List (List Char), members ≠ [] → (∀ member ∈ members, IsMember member) →
      Splits members (splitOptional (String.ofList (Text.joined '|' members))) := by
  intro always
  have each : ∀ member ∈ ["Optional[int] ".toList, " list[str]".toList], IsMember member := by
    decide
  have mistaken : LooksMistaken ["Optional[int] ".toList, " list[str]".toList] :=
    ⟨"int] | list[str".toList, ⟨"Optional[", List.mem_cons_self, by decide⟩, by decide⟩
  exact mistaken.not_splits each (always _ (List.cons_ne_nil _ _) each)

end StateContainer.Signature
