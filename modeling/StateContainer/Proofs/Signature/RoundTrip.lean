/-
This file says what becomes of a type that is read, written and read again, and which types come
back from what is written for them.

A name that was read is a trimmed run. Behind a name without arguments the written question
mark ends the run, and one question mark is all that is read off it, so the name and its mark
come back. In front of a list of arguments nothing is written behind the name: if the name
itself ends in a question mark, this one is read off. The type is nullable anyway then, since
the name kept a question mark only behind another one, but its name comes back shorter.

A type comes back exactly if the name of every node is trimmed and holds no bracket and no comma, and
if a question mark that ends a longer name has the mark of its own node behind it: the node is
nullable, and no list of arguments stands between the two. The text determines what is read, so no
other reading could bring another type back.
-/

import StateContainer.Proofs.Except
import StateContainer.Proofs.Signature.Soundness
import StateContainer.Signature.Printer

namespace StateContainer

namespace Signature

/-! ### Names that were read -/

/-- A name as it is read: a trimmed run, which ends in a question mark that would be read as a mark
only if its type is nullable. -/
structure IsName (name : List Char) (nullable : Bool) : Prop where
  plain : IsRun name
  written : name ≠ []
  trimmed : Text.trim name = name
  nullable_of_marked : (readName name).2 = true → nullable = true

theorem IsName.trim_ne_nil {name : List Char} {nullable : Bool} (isName : IsName name nullable) :
    Text.trim name ≠ [] := by
  rw [isName.trimmed]
  exact isName.written

theorem IsName.unmarked {name : List Char} (isName : IsName name false) :
    (readName name).2 = false :=
  Bool.eq_false_iff.mpr fun marked => Bool.false_ne_true (isName.nullable_of_marked marked)

theorem IsName.trimEnd_eq {name : List Char} {nullable : Bool} (isName : IsName name nullable) :
    Text.trimEnd name = name := by
  rw [← isName.trimmed, Text.trim, Text.trimEnd_trimEnd]

theorem isRun_nil : IsRun [] :=
  fun _ member => absurd member List.not_mem_nil

/-- An ordinary character is a run. -/
theorem isRun_singleton {c : Char} (ordinary : isSpecial c = false) : IsRun [c] := by
  intro d member
  rw [List.mem_singleton.mp member]
  exact ordinary

theorem IsRun.append {first second : List Char} (plain : IsRun first) (others : IsRun second) :
    IsRun (first ++ second) := by
  intro c member
  rcases List.mem_append.mp member with member | member
  · exact plain c member
  · exact others c member

/-- A part of a run is a run. -/
theorem IsRun.of_subset {text part : List Char} (plain : IsRun text) (within : part ⊆ text) :
    IsRun part :=
  fun c member => plain c (within member)

theorem trim_subset (text : List Char) : Text.trim text ⊆ text :=
  fun _ member =>
    (List.dropWhile_suffix _).subset ((Text.trimEnd_prefix (Text.trimStart text)).subset member)

/-- Only a name that was read without a mark is sure not to end in one. -/
theorem Names.isName {run name : List Char} {own nullable : Bool} (plain : IsRun run)
    (names : Names run name own) (kept : own = true → nullable = true) : IsName name nullable := by
  cases names with
  | plain named unmarked =>
    refine ⟨plain.of_subset (trim_subset run), named, Text.trim_trim run, fun marked => ?_⟩
    rw [readName, Text.trim_trim] at marked
    split at marked
    next mark =>
      obtain ⟨front, longer, split⟩ := marked_iff.mp mark
      exact absurd split (unmarked front longer)
    · cases marked
  | marked front longer mark =>
    have within : Text.trimEnd front ⊆ run := fun c member =>
      trim_subset run (mark ▸ List.mem_append_left _ ((Text.trimEnd_prefix front).subset member))
    have start : Text.trimStart front = front := by
      obtain ⟨c, rest, rfl⟩ := List.exists_cons_of_ne_nil longer
      exact Text.trimStart_cons (Text.isBlank_head_trim mark) rest
    refine ⟨plain.of_subset within, (Names.marked front longer mark).name_ne_nil, ?_,
      fun _ => kept rfl⟩
    rw [Text.trim, Text.trimStart_trimEnd start, Text.trimEnd_trimEnd]

/-- A question mark behind a name is read off again. -/
theorem IsName.names_mark {name : List Char} {nullable : Bool} (isName : IsName name nullable) :
    Names (name ++ ['?']) name true := by
  obtain ⟨c, rest, rfl⟩ := List.exists_cons_of_ne_nil isName.written
  have first : Text.isBlank c = false := Text.isBlank_head_trim isName.trimmed
  have mark : Text.trim ((c :: rest) ++ ['?']) = (c :: rest) ++ ['?'] := by
    rw [Text.trim, List.cons_append, Text.trimStart_cons first, ← List.cons_append,
      Text.trimEnd_concat rfl]
  have names : Names ((c :: rest) ++ ['?']) (Text.trimEnd (c :: rest)) true :=
    .marked (c :: rest) (List.cons_ne_nil _ _) mark
  rw [isName.trimEnd_eq] at names
  exact names

/-- A name that does not end in a mark is read as it is. -/
theorem IsName.readName_eq {name : List Char} {nullable : Bool} (isName : IsName name nullable)
    (unmarked : (readName name).2 = false) : readName name = (name, false) := by
  rw [readName] at unmarked ⊢
  split at unmarked
  · cases unmarked
  next plain => rw [if_neg plain, isName.trimmed]

theorem IsName.names_self {name : List Char} {nullable : Bool} (isName : IsName name nullable)
    (unmarked : (readName name).2 = false) : Names name name false := by
  have names := names_readName isName.trim_ne_nil
  rw [isName.readName_eq unmarked] at names
  exact names

/-- A name that ends in a mark is not read as it is. -/
theorem readName_ne_of_marked {name : List Char} (marked : (readName name).2 = true) :
    (readName name).1 ≠ name := by
  rw [readName] at marked ⊢
  split at marked
  next mark =>
    rw [if_pos mark]
    obtain ⟨front, longer, split⟩ := marked_iff.mp mark
    rw [split, List.dropLast_concat]
    intro (same : Text.trimEnd front = name)
    have kept : (Text.trimEnd front).length ≤ front.length := (Text.trimEnd_prefix front).length_le
    have trimmed : (Text.trim name).length ≤ name.length :=
      (Text.trimEnd_prefix _).length_le.trans (List.dropWhile_suffix _).length_le
    rw [same] at kept
    rw [split, List.length_append, List.length_singleton] at trimmed
    exact Nat.not_succ_le_self _ (trimmed.trans kept)
  · cases marked

/-- When a name is read as it is. -/
theorem IsName.readName_fst_eq_iff {name : List Char} {nullable : Bool}
    (isName : IsName name nullable) : (readName name).1 = name ↔ (readName name).2 = false := by
  constructor
  · intro whole
    exact Bool.eq_false_iff.mpr fun marked => readName_ne_of_marked marked whole
  · intro unmarked
    rw [isName.readName_eq unmarked]

end Signature

/-! ### Types that were read -/

namespace Descriptor

open Signature

mutual

/-- Whether all names in a type are names as they are read. -/
def WellNamed : Descriptor → Prop
  | ⟨name, nullable, arguments⟩ => IsName name.toList nullable ∧ WellNamedAll arguments

/-- Whether all names in some types are names as they are read. -/
def WellNamedAll : List Descriptor → Prop
  | [] => True
  | first :: others => first.WellNamed ∧ WellNamedAll others

end

mutual

/-- The type that is read when a type is written and read again: the name in front of a list of
arguments is read as it would be read alone. -/
def reread : Descriptor → Descriptor
  | ⟨name, nullable, arguments⟩ =>
    { name := if arguments = [] then name else String.ofList (readName name.toList).1
      nullable
      arguments := rereadAll arguments }

/-- The types that are read when some types are written and read again. -/
def rereadAll : List Descriptor → List Descriptor
  | [] => []
  | first :: others => first.reread :: rereadAll others

end

mutual

/-- Whether no name in front of a list of arguments has a question mark at its end that would be read
as a mark. -/
def OwnersUnmarked : Descriptor → Prop
  | ⟨name, _, arguments⟩ =>
    (arguments ≠ [] → (readName name.toList).2 = false) ∧ OwnersUnmarkedAll arguments

/-- Whether this holds of some types. -/
def OwnersUnmarkedAll : List Descriptor → Prop
  | [] => True
  | first :: others => first.OwnersUnmarked ∧ OwnersUnmarkedAll others

end

end Descriptor

namespace Signature

open Descriptor

mutual

/-- All names in a type that was read are names as they are read. -/
theorem Derives.wellNamed {text : List Char} {t : Descriptor} (derived : Derives text t) :
    t.WellNamed := by
  cases derived with
  | name plain names =>
    refine ⟨?_, trivial⟩
    rw [String.toList_ofList]
    exact names.isName plain id
  | generic plain names bracket list plainMark ending =>
    refine ⟨?_, list.wellNamed⟩
    rw [String.toList_ofList]
    refine names.isName plain fun marked => ?_
    rw [marked, Bool.true_or]

theorem DerivesList.wellNamed {text : List Char} {types : List Descriptor}
    (list : DerivesList text types) : WellNamedAll types := by
  cases list with
  | single first => exact ⟨first.wellNamed, trivial⟩
  | cons first list => exact ⟨first.wellNamed, list.wellNamed⟩

end

/-! ### Writing and reading again -/

theorem Names.of_trim_eq {run other name : List Char} {nullable : Bool}
    (names : Names run name nullable) (same : Text.trim other = Text.trim run) :
    Names other name nullable := by
  cases names with
  | plain named unmarked => rw [← same] at named unmarked ⊢; exact .plain named unmarked
  | marked front longer mark => exact .marked front longer (same.trans mark)

/-- A blank in front of a type says nothing. -/
theorem Derives.afterBlank {text : List Char} {t : Descriptor} (derived : Derives text t) :
    Derives (' ' :: text) t := by
  have blank : IsRun [' '] := isRun_singleton rfl
  cases derived with
  | name plain names =>
    exact .name (blank.append plain) (names.of_trim_eq (Text.trim_cons_blank rfl _))
  | generic plain names bracket list plainMark ending =>
    exact .generic (blank.append plain) (names.of_trim_eq (Text.trim_cons_blank rfl _)) bracket list
      plainMark ending

mutual

/-- What is written for a type is a type again. -/
theorem derives_renderChars (bracket : Bracket) : (t : Descriptor) → t.WellNamed →
    Derives (renderChars bracket.delimiters t) t.reread
  | ⟨name, nullable, []⟩, ⟨isName, _⟩ => by
    rw [renderChars, renderArguments, List.append_nil, reread, if_pos rfl, rereadAll]
    cases nullable with
    | false =>
      have derived : Derives name.toList ⟨String.ofList name.toList, false, []⟩ :=
        .name isName.plain (isName.names_self isName.unmarked)
      rw [String.ofList_toList] at derived
      rw [if_neg Bool.false_ne_true, List.append_nil]
      exact derived
    | true =>
      have plain : IsRun (name.toList ++ ['?']) := isName.plain.append (isRun_singleton rfl)
      have derived : Derives (name.toList ++ ['?']) ⟨String.ofList name.toList, true, []⟩ :=
        .name plain isName.names_mark
      rw [String.ofList_toList] at derived
      rw [if_pos rfl]
      exact derived
  | ⟨name, nullable, first :: others⟩, ⟨isName, wellNamed, othersNamed⟩ => by
    have list := derivesList_renderOthers bracket others
      (derives_renderChars bracket first wellNamed) othersNamed
    have names := names_readName isName.trim_ne_nil
    rw [renderChars, renderArguments, reread, if_neg (List.cons_ne_nil _ _), rereadAll]
    cases nullable with
    | false =>
      have derived := Derives.generic isName.plain names bracket list isRun_nil (Or.inl rfl)
      rw [isName.unmarked] at derived
      simpa [Bracket.delimiters] using derived
    | true =>
      have mark : IsRun ['?'] := isRun_singleton rfl
      have derived := Derives.generic isName.plain names bracket list mark (Or.inr rfl)
      have marked : ((readName name.toList).2 || decide (Text.trim ['?'] = ['?'])) = true := by
        rw [decide_eq_true (show Text.trim ['?'] = ['?'] from rfl), Bool.or_true]
      rw [marked] at derived
      simpa [Bracket.delimiters] using derived

/-- What is written for the arguments after the first one continues the list. -/
theorem derivesList_renderOthers (bracket : Bracket) {text : List Char} {first : Descriptor} :
    (others : List Descriptor) → Derives text first → WellNamedAll others →
    DerivesList (text ++ renderOthers bracket.delimiters others) (first :: rereadAll others)
  | [], derived, _ => by
    rw [renderOthers, List.append_nil, rereadAll]
    exact .single derived
  | next :: others, derived, ⟨wellNamed, othersNamed⟩ => by
    rw [renderOthers, rereadAll]
    exact .cons derived (derivesList_renderOthers bracket others
      (derives_renderChars bracket next wellNamed).afterBlank othersNamed)

end

mutual

/-- A type comes back exactly if no name in front of a list of arguments loses a question mark. -/
theorem reread_eq_self_iff : (t : Descriptor) → t.WellNamed → (t.reread = t ↔ t.OwnersUnmarked)
  | ⟨name, nullable, []⟩, _ => by
    rw [reread, if_pos rfl, rereadAll, OwnersUnmarked, OwnersUnmarkedAll]
    exact iff_of_true rfl ⟨fun never => absurd rfl never, trivial⟩
  | ⟨name, nullable, first :: others⟩, ⟨isName, wellNamed⟩ => by
    have some : first :: others ≠ [] := List.cons_ne_nil _ _
    have whole : String.ofList (readName name.toList).1 = name ↔ (readName name.toList).2 = false := by
      rw [← isName.readName_fst_eq_iff, ← String.toList_inj, String.toList_ofList]
    rw [reread, if_neg some, OwnersUnmarked, Descriptor.mk.injEq, whole,
      rereadAll_eq_self_iff (first :: others) wellNamed]
    exact ⟨fun ⟨unmarked, _, rest⟩ => ⟨fun _ => unmarked, rest⟩,
      fun ⟨unmarked, rest⟩ => ⟨unmarked some, rfl, rest⟩⟩

theorem rereadAll_eq_self_iff : (types : List Descriptor) → WellNamedAll types →
    (rereadAll types = types ↔ OwnersUnmarkedAll types)
  | [], _ => iff_of_true rfl trivial
  | first :: others, ⟨wellNamed, othersNamed⟩ => by
    rw [rereadAll, OwnersUnmarkedAll, List.cons.injEq, reread_eq_self_iff first wellNamed,
      rereadAll_eq_self_iff others othersNamed]

end

/-- A type that was read can always be written and read again. It comes back as it was exactly if no
name in front of a list of arguments ends in a question mark, save for a name that is nothing else;
otherwise such names lose it. -/
theorem parse_render_eq_ok_reread {signature : String} {t : Descriptor}
    (parsed : parse signature = .ok t) (bracket : Bracket) :
    parse (render bracket.delimiters t) = .ok t.reread ∧ (t.reread = t ↔ t.OwnersUnmarked) := by
  have wellNamed : t.WellNamed :=
    (derives_of_parseChars (mapError_eq_ok_iff.mp parsed)).wellNamed
  refine ⟨mapError_eq_ok_iff.mpr ?_, reread_eq_self_iff t wellNamed⟩
  rw [render, String.toList_ofList]
  exact parseChars_of_derives (derives_renderChars bracket t wellNamed)

theorem parse_render_reread_doubly_marked :
    parse "a??<b>" = .ok ⟨"a?", true, [⟨"b", false, []⟩]⟩ ∧
      parse "a?<b>?" = .ok ⟨"a", true, [⟨"b", false, []⟩]⟩ := by
  have parsed : parse "a??<b>" = .ok ⟨"a?", true, [⟨"b", false, []⟩]⟩ := by decide
  exact ⟨parsed, (parse_render_eq_ok_reread parsed .angle).1⟩

/-- Not every type that was read comes back as it was. -/
theorem exists_parse_render_ne :
    ¬ ∀ (signature : String) (t : Descriptor) (bracket : Bracket),
      parse signature = .ok t → parse (render bracket.delimiters t) = .ok t := by
  intro returns
  have returned := returns "a??<b>" ⟨"a?", true, [⟨"b", false, []⟩]⟩ .angle (by decide)
  exact absurd returned (by decide)

end Signature

/-! ### Types that are written so that they come back -/

namespace Descriptor

open Signature

mutual

/-- The nodes of a type: the type itself, and the nodes of its arguments. -/
def nodes : Descriptor → List Descriptor
  | ⟨name, nullable, arguments⟩ => ⟨name, nullable, arguments⟩ :: nodesOfAll arguments

/-- The nodes of several types. -/
def nodesOfAll : List Descriptor → List Descriptor
  | [] => []
  | first :: others => first.nodes ++ nodesOfAll others

end

/-- Whether the name of a node is written so that it can be told from what stands around it. -/
structure IsLegible (node : Descriptor) : Prop where
  trimmed : Text.trim node.name.toList = node.name.toList
  plain : ∀ c ∈ node.name.toList, c ∉ ['<', '>', '[', ']', ',']
  /-- A question mark at the end of a name of more than one character is followed by the mark of
  the node. -/
  marked : 1 < node.name.length → node.name.toList.getLast? = some '?' →
    node.nullable = true ∧ node.arguments = []

end Descriptor

namespace Signature

/-! ### Names -/

/-- The brackets and the comma are the special characters. -/
theorem isSpecial_eq_false_iff {c : Char} :
    isSpecial c = false ↔ c ∉ ['<', '>', '[', ']', ','] := by
  simp only [isSpecial, Token.ofChar?, List.mem_cons, List.not_mem_nil, or_false, not_or]
  constructor
  · intro ordinary
    refine ⟨?_, ?_, ?_, ?_, ?_⟩ <;> (rintro rfl; exact absurd ordinary (by decide))
  · rintro ⟨notLess, notGreater, notOpening, notClosing, notComma⟩
    rw [if_neg notLess, if_neg notOpening, if_neg notGreater, if_neg notClosing, if_neg notComma]
    rfl

/-- A question mark is read off a trimmed name if it ends the name and is not the whole of it. -/
theorem readName_snd_of_trimmed {name : List Char} (trimmed : Text.trim name = name) :
    (readName name).2 = true ↔ 1 < name.length ∧ name.getLast? = some '?' := by
  rw [readName, trimmed]
  by_cases marked : 1 < name.length ∧ name.getLast? = some '?'
  · rw [if_pos (by simpa using marked)]
    exact iff_of_true rfl marked
  · rw [if_neg (by simpa using marked)]
    exact iff_of_false Bool.false_ne_true marked

/-- A node has a legible name exactly if the name is one as it is read, and no question mark is
read off it in front of arguments. -/
theorem isLegible_iff (node : Descriptor) :
    node.name ≠ "" ∧ node.IsLegible ↔
      IsName node.name.toList node.nullable ∧
        (node.arguments ≠ [] → (readName node.name.toList).2 = false) := by
  constructor
  · rintro ⟨written, trimmed, plain, marked⟩
    have mark := readName_snd_of_trimmed trimmed
    rw [String.length_toList] at mark
    refine ⟨⟨fun c member => isSpecial_eq_false_iff.mpr (plain c member), ?_, trimmed, ?_⟩, ?_⟩
    · exact fun empty => written (String.toList_eq_nil_iff.mp empty)
    · intro read
      obtain ⟨longer, last⟩ := mark.mp read
      exact (marked longer last).1
    · intro owner
      refine Bool.eq_false_iff.mpr fun read => ?_
      obtain ⟨longer, last⟩ := mark.mp read
      exact owner (marked longer last).2
  · rintro ⟨⟨plain, written, trimmed, nullable⟩, unmarked⟩
    have mark := readName_snd_of_trimmed trimmed
    rw [String.length_toList] at mark
    refine ⟨fun empty => written (String.toList_eq_nil_iff.mpr empty), trimmed,
      fun c member => isSpecial_eq_false_iff.mp (plain c member), fun longer last => ?_⟩
    have read := mark.mpr ⟨longer, last⟩
    refine ⟨nullable read, ?_⟩
    by_contra owner
    exact Bool.false_ne_true ((unmarked owner).symm.trans read)

end Signature

/-! ### Types -/

namespace Descriptor

mutual

/-- All names of a type are legible exactly if they are names as they are read, and none in front of
arguments loses a question mark. -/
theorem forall_isLegible_iff : (t : Descriptor) →
    ((∀ node ∈ t.nodes, node.name ≠ "" ∧ node.IsLegible) ↔ t.WellNamed ∧ t.OwnersUnmarked)
  | ⟨name, nullable, arguments⟩ => by
    rw [nodes, List.forall_mem_cons, Signature.isLegible_iff, forall_isLegible_all_iff arguments,
      WellNamed, OwnersUnmarked]
    exact and_and_and_comm

theorem forall_isLegible_all_iff : (types : List Descriptor) →
    ((∀ node ∈ nodesOfAll types, node.name ≠ "" ∧ node.IsLegible) ↔
      WellNamedAll types ∧ OwnersUnmarkedAll types)
  | [] => iff_of_true (by rw [nodesOfAll]; exact List.forall_mem_nil _) ⟨trivial, trivial⟩
  | first :: others => by
    rw [nodesOfAll, List.forall_mem_append, forall_isLegible_iff first,
      forall_isLegible_all_iff others, WellNamedAll, OwnersUnmarkedAll]
    exact and_and_and_comm

end

end Descriptor

namespace Signature

/-- A type comes back from what is written for it exactly if all its nodes have legible names. (A
node without a name is not legible either: no text is read as such a node.) -/
theorem parse_render_eq_ok_self_iff (t : Descriptor) (bracket : Bracket) :
    parse (render bracket.delimiters t) = .ok t ↔
      ∀ node ∈ t.nodes, node.name ≠ "" ∧ node.IsLegible := by
  rw [t.forall_isLegible_iff]
  have written : (render bracket.delimiters t).toList = renderChars bracket.delimiters t := by
    rw [render, String.toList_ofList]
  constructor
  · intro parsed
    have read := mapError_eq_ok_iff.mp parsed
    have wellNamed := (derives_of_parseChars read).wellNamed
    refine ⟨wellNamed, (reread_eq_self_iff t wellNamed).mp ?_⟩
    -- What is written is derived as the type read again, and a text has one reading only.
    have again := parseChars_of_derives (derives_renderChars bracket t wellNamed)
    rw [written, again] at read
    exact Except.ok.inj read
  · rintro ⟨wellNamed, unmarked⟩
    refine mapError_eq_ok_iff.mpr ?_
    rw [written, parseChars_of_derives (derives_renderChars bracket t wellNamed),
      (reread_eq_self_iff t wellNamed).mpr unmarked]

end Signature

end StateContainer
