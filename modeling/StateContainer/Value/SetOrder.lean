/-
This file tells the order in which a set goes through its items.

The items of a set lie in slots, of which there are always a power of two. Where
an item lies depends on its hash and on the items that were there before: if the
slot of its hash is taken, the slots right behind it are tried, and then others.
A table that becomes too full is replaced by a larger one. A set goes through its
slots from the first to the last.

Numbers and tuples of numbers have hashes that are known. The order of a set with
other items is not determined, and is that in which they were added.

The main statement is that a set goes through no other items than those that were
added one after the other: whatever the slots are, a table only ever holds what was put into it.
-/

import StateContainer.Value

namespace StateContainer

/-! ### Hashes -/

namespace Hash

/-- The prime that numbers are reduced by: the greatest one below two to the power of 61. -/
def modulus : Nat := 2305843009213693951

/-- How many numbers a machine word tells apart. -/
def wordCount : Nat := 18446744073709551616

/-- The word of an integer. -/
def word (n : Int) : Nat := (n % (wordCount : Int)).toNat

/-- The integer that a word stands for. -/
def ofWord (w : Nat) : Int := if w < wordCount / 2 then w else (w : Int) - wordCount

/-- A hash with a sign. The hash -1 is kept for failures. -/
def signed (negative : Bool) (magnitude : Nat) : Int :=
  let hash : Int := if negative then -(magnitude : Int) else magnitude
  if hash = -1 then -2 else hash

/-- The hash of an integer. -/
def ofInt (n : Int) : Int := signed (n < 0) (n.natAbs % modulus)

/-- The hash of a floating-point number. Division by two is a rotation of 61 bits. -/
def ofFloat? (x : Binary64) : Option Int :=
  if x.isNaN then none
  else if x.isInfinite then some (if x.isNegative then -314159 else 314159)
  else
    let halvings := Nat.log2 x.denominator % 61
    let magnitude := x.numerator % modulus * twoPower ((61 - halvings) % 61) % modulus
    some (signed x.isNegative magnitude)

/-- The hash of a tuple with items of the given hashes. -/
def ofHashes (hashes : List Int) : Int :=
  let start : UInt64 := 2870177450012600261
  let mixed := hashes.foldl (fun (mixed : UInt64) hash =>
    let sum := mixed + UInt64.ofNat (word hash) * 14029467366897019727
    (sum <<< 31 ||| sum >>> 33) * 11400714785074694791) start
  let last := mixed + (UInt64.ofNat hashes.length ^^^ (start ^^^ 3527539))
  if last.toNat + 1 = wordCount then 1546275796 else ofWord last.toNat

end Hash

/-- The hash of a value, if it is known. -/
def Value.hash? : Value → Option Int
  | .bool b => some (if b then 1 else 0)
  | .int n => some (Hash.ofInt n)
  | .float x => Hash.ofFloat? x
  | .tuple items => (hashes? items).map Hash.ofHashes
  | _ => none
where
  /-- The hashes of several values. -/
  hashes? : List Value → Option (List Int)
    | [] => some []
    | first :: others => do return (← hash? first) :: (← hashes? others)

/-! ### Slots -/

/-- The slots of a set; an item lies there with its hash as a word. -/
structure SlotTable (α : Type) where
  slots : Array (Option (Nat × α))
  used : Nat := 0

namespace SlotTable

variable {α : Type}

/-- A table without items. -/
def empty (size : Nat) : SlotTable α := { slots := Array.replicate size none }

/-- The items in the order of their slots. -/
def entries (t : SlotTable α) : List (Nat × α) := t.slots.toList.filterMap id

/-- Whether a slot is free. -/
def isFree (t : SlotTable α) (place : Nat) : Bool :=
  match t.slots[place]? with
  | some none => true
  | _ => false

/-- The first free slot that is found from a place on, with what is left of the hash. Nine slots
behind each place are tried, if there are so many. -/
def freeSlot (t : SlotTable α) : Nat → Nat → Nat → Nat
  | 0, place, _ => place
  | steps + 1, place, remaining =>
    let count := if place + 9 < t.slots.size then 10 else 1
    match ((List.range count).map (place + ·)).find? t.isFree with
    | some found => found
    | none =>
      let remaining := remaining / 32
      t.freeSlot steps ((place * 5 + 1 + remaining) % t.slots.size) remaining

/-- Puts a new item into a slot. -/
def put (t : SlotTable α) (entry : Nat × α) : SlotTable α :=
  let place := t.freeSlot (t.slots.size + 16) (entry.1 % t.slots.size) entry.1
  { slots := t.slots.setIfInBounds place (some entry), used := t.used + 1 }

/-- The number of slots for more items than the given number: a power of two, and eight at
least. -/
def sizeAbove (count : Nat) : Nat := twoPower (max 3 (Nat.log2 count + 1))

/-- A table of the given size with several items. -/
def ofEntries (size : Nat) (entries : List (Nat × α)) : SlotTable α :=
  entries.foldl put (empty size)

/-- Whether so many items fill a table so far that it becomes too slow. -/
def isCrowded (t : SlotTable α) (count : Nat) : Bool :=
  (t.slots.size - 1) * 3 ≤ count * 5

/-- Adds a new item. -/
def add (t : SlotTable α) (entry : Nat × α) : SlotTable α :=
  let filled := t.put entry
  if filled.isCrowded filled.used then
    let wanted := if filled.used > 50000 then filled.used * 2 else filled.used * 4
    ofEntries (sizeAbove wanted) filled.entries
  else filled

/-! ### What slots hold -/

theorem mem_entries {t : SlotTable α} {entry : Nat × α} :
    entry ∈ t.entries ↔ some entry ∈ t.slots.toList := by
  rw [entries, List.mem_filterMap]
  exact ⟨fun ⟨_, inside, same⟩ => same ▸ inside, fun inside => ⟨_, inside, rfl⟩⟩

theorem not_mem_entries_empty (size : Nat) (entry : Nat × α) : entry ∉ (empty size).entries := by
  rw [mem_entries, empty, Array.toList_replicate]
  exact fun member => Option.some_ne_none entry (List.eq_of_mem_replicate member)

/-- A slot that is filled holds the new item, and any other slot what it held. -/
theorem mem_entries_put {t : SlotTable α} {entry other : Nat × α}
    (member : other ∈ (t.put entry).entries) : other = entry ∨ other ∈ t.entries := by
  rw [mem_entries, put, Array.toList_setIfInBounds] at member
  rw [mem_entries]
  obtain before | same := List.mem_or_eq_of_mem_set member
  · exact .inr before
  · exact .inl (Option.some_inj.mp same)

theorem mem_entries_foldl_put {added : List (Nat × α)} {t : SlotTable α} {entry : Nat × α}
    (member : entry ∈ (added.foldl put t).entries) : entry ∈ added ∨ entry ∈ t.entries := by
  induction added generalizing t with
  | nil => exact .inr member
  | cons first others inductionHypothesis =>
    obtain later | before := inductionHypothesis member
    · exact .inl (List.mem_cons_of_mem _ later)
    · rcases mem_entries_put before with rfl | before
      · exact .inl List.mem_cons_self
      · exact .inr before

theorem mem_of_mem_entries_ofEntries {size : Nat} {added : List (Nat × α)} {entry : Nat × α}
    (member : entry ∈ (ofEntries size added).entries) : entry ∈ added :=
  (mem_entries_foldl_put member).resolve_right (not_mem_entries_empty size entry)

/-- A larger table holds what the table before held. -/
theorem mem_entries_add {t : SlotTable α} {entry other : Nat × α}
    (member : other ∈ (t.add entry).entries) : other = entry ∨ other ∈ t.entries := by
  rw [add] at member
  split at member
  · exact mem_entries_put (mem_of_mem_entries_ofEntries member)
  · exact mem_entries_put member

theorem mem_entries_foldl_add {added : List (Nat × α)} {t : SlotTable α} {entry : Nat × α}
    (member : entry ∈ (added.foldl add t).entries) : entry ∈ added ∨ entry ∈ t.entries := by
  induction added generalizing t with
  | nil => exact .inr member
  | cons first others inductionHypothesis =>
    obtain later | before := inductionHypothesis member
    · exact .inl (List.mem_cons_of_mem _ later)
    · rcases mem_entries_add before with rfl | before
      · exact .inl List.mem_cons_self
      · exact .inr before

end SlotTable

/-! ### Orders -/

namespace SetOrder

variable {α : Type}

/-- Different items with their hashes, if all of these are known. -/
def hashed? (hash? : α → Option Int) (items : List α) : Option (List (Nat × α)) :=
  items.mapM fun item => (hash? item).map fun hash => (Hash.word hash, item)

/-- The order in which a set goes through different items that were added one after the other. -/
def ofAdded (hash? : α → Option Int) (items : List α) : List α :=
  match hashed? hash? items with
  | none => items
  | some entries => (entries.foldl SlotTable.add (SlotTable.empty 8)).entries.map (·.2)

/-- The order in which a set goes through different items that it takes over from another set. It
chooses its size at once. -/
def ofMerged (hash? : α → Option Int) (items : List α) : List α :=
  match hashed? hash? items with
  | none => items
  | some entries =>
    let source := entries.foldl SlotTable.add (SlotTable.empty 8)
    let start : SlotTable α := SlotTable.empty 8
    let size :=
      if start.isCrowded entries.length then SlotTable.sizeAbove (entries.length * 2) else 8
    let taken := if size = source.slots.size then source else SlotTable.ofEntries size source.entries
    taken.entries.map (·.2)

theorem mem_of_hashed? {hash? : α → Option Int} {items : List α}
    {entries : List (Nat × α)} (found : hashed? hash? items = some entries) {entry : Nat × α}
    (member : entry ∈ entries) : entry.2 ∈ items := by
  induction items generalizing entries with
  | nil =>
    cases found
    cases member
  | cons first others inductionHypothesis =>
    rw [hashed?, List.mapM_cons] at found
    obtain ⟨own, hashed, found⟩ := Option.bind_eq_some_iff.mp found
    obtain ⟨rest, later, same⟩ := Option.bind_eq_some_iff.mp found
    obtain ⟨hash, -, rfl⟩ := Option.map_eq_some_iff.mp hashed
    cases same
    rcases List.mem_cons.mp member with rfl | member
    · exact List.mem_cons_self
    · exact List.mem_cons_of_mem _ (inductionHypothesis later member)

/-- A set goes through items that were added. -/
theorem ofAdded_subset (hash? : α → Option Int) (items : List α) :
    ofAdded hash? items ⊆ items := by
  intro item member
  rw [ofAdded] at member
  split at member
  · exact member
  · next entries found =>
    obtain ⟨entry, inside, rfl⟩ := List.mem_map.mp member
    obtain added | before := SlotTable.mem_entries_foldl_add inside
    · exact mem_of_hashed? found added
    · exact absurd before (SlotTable.not_mem_entries_empty 8 entry)

end SetOrder

end StateContainer
