/-
This file singles out the types of fields that hold plain data: texts, integers,
floating-point numbers, truth values, lists, maps, tuples, and unions of such types with null.

A union may stand inside another type only where this is said, because a stored value is not
checked there before it is converted. What is converted is data as well: values and
collections of them. Going through data fails at most by a misuse.

Among these are the types that are declared of scalars, lists, sets, and maps from texts,
where null may be admitted beside any of them.

Which values conform to such a type is said independently of how stored values are checked and
converted. A truth value counts as an integer, as the class of truth values descends from that
of integers.

Stored values are held to such a type by a check and a conversion together, but not to every one.
The items of a set are not checked, and neither are those of a map that is declared together with
null inside of another type. A conversion alone makes the scalars what they have to be, and leaves
null where a collection has to be; so null has to be admitted there.
-/

import StateContainer.Proofs.Hint.Ensures
import StateContainer.Proofs.Snapshot.StoredType
import StateContainer.Snapshot.Decode

namespace StateContainer

open Hint (Evaluation Fault)

/-! ### Faults -/

/-- Whether a fault counts as one of the stored text. -/
def Hint.Fault.IsTaken (fault : Fault) : Prop :=
  Snapshot.isTaken fault = true

/-- Whether a fault is that a number is too large for its class. -/
def Hint.Fault.IsOverflow (fault : Fault) : Prop :=
  ∃ text, fault = .raised "OverflowError" text

theorem Hint.Fault.isTaken_misuse (cause : Hint.Misuse) : (Fault.misuse cause).IsTaken := rfl

theorem Hint.Fault.isTaken_invalid (text : String) : (Fault.raised "ValueError" text).IsTaken := rfl

theorem Hint.Fault.isTaken_unknownAttribute (owner name : String) :
    (Fault.unknownAttribute owner name).IsTaken := rfl

/-! ### Data -/

namespace Hint

/-- Whether something is data: a value or a collection of data. -/
inductive IsData : Hint → Prop where
  | value (v : Value) : IsData (.value v)
  | list {items : List Hint} (each : ∀ item ∈ items, IsData item) : IsData (.list items)
  | tuple {items : List Hint} (each : ∀ item ∈ items, IsData item) : IsData (.tuple items)
  | set {frozen : Bool} {items : List Hint} (each : ∀ item ∈ items, IsData item) :
      IsData (.set frozen items)
  | dict {entries : List (Hint × Hint)} (keys : ∀ entry ∈ entries, IsData entry.1)
      (items : ∀ entry ∈ entries, IsData entry.2) : IsData (.dict entries)

mutual

/-- Values are data. -/
theorem isData_ofValue (given : Value) : IsData (ofValue given) := by
  cases given with
  | list items => exact .list (isData_of_mem_ofValues items)
  | tuple items => exact .tuple (isData_of_mem_ofValues items)
  | set items => exact .set (isData_of_mem_ofValues items)
  | dict entries =>
    exact .dict (fun entry member => (isData_of_mem_ofEntries entries entry member).1)
      fun entry member => (isData_of_mem_ofEntries entries entry member).2
  | _ => exact .value _

theorem isData_of_mem_ofValues (items : List Value) : ∀ item ∈ ofValues items, IsData item := by
  cases items with
  | nil => exact fun _ => nofun
  | cons first others =>
    exact List.forall_mem_cons.mpr ⟨isData_ofValue first, isData_of_mem_ofValues others⟩

theorem isData_of_mem_ofEntries (entries : List (Value × Value)) :
    ∀ entry ∈ ofEntries entries, IsData entry.1 ∧ IsData entry.2 := by
  cases entries with
  | nil => exact fun _ => nofun
  | cons first others =>
    exact List.forall_mem_cons.mpr
      ⟨⟨isData_ofValue first.1, isData_ofValue first.2⟩, isData_of_mem_ofEntries others⟩

end

/-- Going through data gives data, or it is refused. -/
theorem ensures_itemsOf {given : Hint} (data : IsData given) {refusal : String → Misuse} :
    (itemsOf refusal given).Ensures (fun items => ∀ item ∈ items, IsData item) Fault.IsTaken := by
  cases data with
  | list each => exact Evaluation.ensures_pure each
  | tuple each => exact Evaluation.ensures_pure each
  | set each => exact Evaluation.ensures_pure each
  | dict keys items =>
    refine Evaluation.ensures_pure fun key member => ?_
    obtain ⟨entry, inside, rfl⟩ := List.mem_map.mp member
    exact keys entry inside
  | value v =>
    cases v with
    | text content =>
      refine Evaluation.ensures_pure fun item member => ?_
      obtain ⟨c, -, rfl⟩ := List.mem_map.mp member
      exact .value _
    | bytes content =>
      refine Evaluation.ensures_pure fun item member => ?_
      obtain ⟨byte, -, rfl⟩ := List.mem_map.mp member
      exact .value _
    | _ => exact Evaluation.ensures_throw (Fault.isTaken_misuse _)

/-- Binding a key to data in a map of data gives data. -/
theorem isData_insertEntry {entries : List (Hint × Hint)} {key item : Hint}
    (data : IsData (.dict entries)) (own : IsData key) (bound : IsData item) :
    IsData (.dict (insertEntry entries key item)) := by
  cases data with
  | dict keys items =>
  rw [insertEntry]
  split
  · refine .dict (fun entry member => ?_) fun entry member => ?_
    · obtain ⟨old, inside, rfl⟩ := List.mem_map.mp member
      exact keys old inside
    · obtain ⟨old, inside, rfl⟩ := List.mem_map.mp member
      dsimp only
      split
      · exact bound
      · exact items old inside
  · exact .dict (List.forall_mem_append.mpr ⟨keys, List.forall_mem_singleton.mpr own⟩)
      (List.forall_mem_append.mpr ⟨items, List.forall_mem_singleton.mpr bound⟩)

/-- A map that binds data one after the other is data. -/
theorem isData_foldl_insertEntry {entries : List (Hint × Hint)}
    (each : ∀ entry ∈ entries, IsData entry.1 ∧ IsData entry.2) {made : List (Hint × Hint)}
    (data : IsData (.dict made)) :
    IsData (.dict (entries.foldl (fun made (key, item) => insertEntry made key item) made)) := by
  induction entries generalizing made with
  | nil => exact data
  | cons entry others inductionHypothesis =>
    obtain ⟨⟨own, bound⟩, later⟩ := List.forall_mem_cons.mp each
    exact inductionHypothesis later (isData_insertEntry data own bound)

end Hint

/-! ### Plain types -/

namespace Snapshot

/-- The classes that the types are made of, besides those of stored fields. -/
def numberClass : Hint.ClassId := Hint.builtinClass "float" .closed
def tupleClass : Hint.ClassId := Hint.builtinClass "tuple" .free

/-- The classes of scalars. -/
def scalarClasses : List Hint.ClassId :=
  [StoredType.textClass, StoredType.integerClass, numberClass, StoredType.truthClass]

/-- The classes of collections. -/
def collectionClasses : List Hint.ClassId :=
  [StoredType.listClass, StoredType.mapClass, tupleClass]

theorem mem_scalarClasses {id : Hint.ClassId} : id ∈ scalarClasses ↔ id = StoredType.textClass ∨
    id = StoredType.integerClass ∨ id = numberClass ∨ id = StoredType.truthClass := by
  rw [scalarClasses, List.mem_cons, List.mem_cons, List.mem_cons, List.mem_singleton]

theorem mem_collectionClasses {id : Hint.ClassId} : id ∈ collectionClasses ↔
    id = StoredType.listClass ∨ id = StoredType.mapClass ∨ id = tupleClass := by
  rw [collectionClasses, List.mem_cons, List.mem_cons, List.mem_singleton]

/-- Whether a type is plain. Unions with null stand inside of it only if they may. -/
inductive IsPlain (united : Prop) : Hint → Prop where
  | scalar {id : Hint.ClassId} (known : id ∈ scalarClasses) : IsPlain united (.classRef id)
  /-- A collection of whatever there is. -/
  | bare {id : Hint.ClassId} (known : id ∈ collectionClasses) : IsPlain united (.classRef id)
  | list (spelling : Hint.Spelling) {item : Hint} (part : IsPlain united item) :
      IsPlain united (.applied spelling StoredType.listClass [item])
  | map (spelling : Hint.Spelling) {key item : Hint} (keys : IsPlain united key)
      (items : IsPlain united item) :
      IsPlain united (.applied spelling StoredType.mapClass [key, item])
  /-- A tuple of any length. -/
  | series (spelling : Hint.Spelling) {item : Hint} (part : IsPlain united item) :
      IsPlain united (.applied spelling tupleClass [item, .ellipsis])
  | tuple (spelling : Hint.Spelling) {items : List Hint} (parts : ∀ item ∈ items, IsPlain united item) :
      IsPlain united (.applied spelling tupleClass items)
  /-- Where null is among the members, this is a union with null. -/
  | union (bars : Bool) {members : List Hint} (may : united)
      (some : ∃ member ∈ members, member ≠ Hint.nullType)
      (parts : ∀ member ∈ members, member ≠ Hint.nullType → IsPlain united member) :
      IsPlain united (.union bars members)

/-- Where no union stands inside of a plain type, some may. -/
theorem IsPlain.mono {united more : Prop} {type : Hint} (within : united → more)
    (plain : IsPlain united type) : IsPlain more type := by
  induction plain with
  | scalar known => exact .scalar known
  | bare known => exact .bare known
  | list spelling _ part => exact .list spelling part
  | map spelling _ _ keys items => exact .map spelling keys items
  | series spelling _ part => exact .series spelling part
  | tuple spelling _ parts => exact .tuple spelling parts
  | union bars may some _ parts => exact .union bars (within may) some parts

end Snapshot

open Snapshot

/-! ### Scalars -/

/-- A type of scalars. -/
inductive ScalarType where
  | text
  | integer
  | number
  | truth
deriving DecidableEq, Repr, Inhabited

namespace ScalarType

/-- The class that a type stands for. -/
def classId : ScalarType → Hint.ClassId
  | text => StoredType.textClass
  | integer => StoredType.integerClass
  | number => numberClass
  | truth => StoredType.truthClass

/-- The rule that the values of a type are checked by. -/
def rule : ScalarType → Rule
  | text => .text
  | integer => .integer
  | number => .number
  | truth => .truth

/-- Whether a value is an instance of a type. -/
def Admits : ScalarType → Value → Prop
  | text, given => ∃ s, given = .text s
  | integer, given => (∃ n, given = .int n) ∨ ∃ b, given = .bool b
  | number, given => ∃ x, given = .float x
  | truth, given => ∃ b, given = .bool b

end ScalarType

/-! ### Types -/

/-- A type that the values of fields are declared to be of. The parts of a collection may be
declared together with null. -/
inductive DeclaredType where
  | scalar (kind : ScalarType)
  | list (item : DeclaredType) (nullable : Bool)
  | set (item : DeclaredType) (nullable : Bool)
  /-- A map from texts. -/
  | map (item : DeclaredType) (nullable : Bool)
deriving DecidableEq, Repr, Inhabited

/-- Whether a value is null where that is admitted, or of some kind. -/
def OrNull (nullable : Bool) (kind : Value → Prop) (given : Value) : Prop :=
  (nullable = true ∧ given = .null) ∨ kind given

namespace DeclaredType

/-- The class of sets. -/
def setClass : Hint.ClassId := Hint.builtinClass "set" .free

/-- Whether a value conforms to a type. -/
def Admits : DeclaredType → Value → Prop
  | scalar kind, given => kind.Admits given
  | list item nullable, given =>
    ∃ items, given = .list items ∧ ∀ part ∈ items, OrNull nullable item.Admits part
  | set item nullable, given =>
    ∃ items, given = .set items ∧ ∀ part ∈ items, OrNull nullable item.Admits part
  | map item nullable, given =>
    ∃ pairs, given = .dict (Value.textEntries pairs) ∧ (pairs.map (·.1)).Nodup ∧
      ∀ pair ∈ pairs, OrNull nullable item.Admits pair.2

/-! ### Annotations and rules -/

/-- An annotation with null if it is admitted. -/
def withNull (nullable : Bool) (type : Hint) : Hint :=
  if nullable then .union true [type, Hint.nullType] else type

/-- What the annotation of a type resolves to. -/
def hint : DeclaredType → Hint
  | scalar kind => .classRef kind.classId
  | list item nullable => .applied .plain StoredType.listClass [withNull nullable item.hint]
  | set item nullable => .applied .plain setClass [withNull nullable item.hint]
  | map item nullable =>
    .applied .plain StoredType.mapClass
      [.classRef StoredType.textClass, withNull nullable item.hint]

/-- The rule of a part of a collection. With null, it is a union of one member. -/
def partRule (nullable : Bool) (type : Hint) (rule : Rule) : Rule :=
  if nullable then .orNull (.union [(type, rule)]) else rule

/-- The rule that the values of a type are checked by. -/
def rule : DeclaredType → Rule
  | scalar kind => kind.rule
  | list item nullable => .list (partRule nullable item.hint item.rule)
  | set _ _ => .anything
  | map item nullable => .map (some .text) (some (partRule nullable item.hint item.rule))

/-! ### Types that values are held to -/

/-- Whether null that is stored in place of a part ends up as a value of the part: it is admitted,
or it is made a scalar. -/
def TakesNull (nullable : Bool) : DeclaredType → Prop
  | scalar _ => True
  | _ => nullable = true

/-- Whether a conversion alone makes any value but null one of the type, or fails. -/
def IsConverted : DeclaredType → Prop
  | scalar _ => True
  | list item nullable => item.TakesNull nullable ∧ item.IsConverted
  | set item nullable => item.TakesNull nullable ∧ item.IsConverted
  | map item nullable => item.TakesNull nullable ∧ item.IsConverted

/-- Whether a part that is declared with null is made one of its type although it may pass unchecked.
For a list that is not in question: what passes unchecked in its place has only texts as items. -/
def PassesUnchecked (nullable : Bool) : DeclaredType → Prop
  | map item inner => nullable = true → (map item inner).IsConverted
  | _ => True

/-- Whether a check and a conversion hold values to a type. -/
def IsEnforced : DeclaredType → Prop
  | scalar _ => True
  | list item nullable => item.PassesUnchecked nullable ∧ item.IsEnforced
  | set item nullable => (set item nullable).IsConverted
  | map item nullable => item.PassesUnchecked nullable ∧ item.IsEnforced

end DeclaredType

/-- The declaration of a field. -/
structure FieldDeclaration where
  type : DeclaredType
  /-- Null is admitted, too. -/
  nullable : Bool := false
  enforced : type.IsEnforced

namespace FieldDeclaration

/-- Whether a value conforms to the declaration of a field. -/
def Admits (field : FieldDeclaration) : Value → Prop :=
  OrNull field.nullable field.type.Admits

/-- What the annotation of a field resolves to. -/
def hint (field : FieldDeclaration) : Hint :=
  DeclaredType.withNull field.nullable field.type.hint

/-- The rule that the values of a field are checked by. -/
def rule (field : FieldDeclaration) : Rule :=
  if field.nullable then .orNull field.type.rule else field.type.rule

end FieldDeclaration

end StateContainer
