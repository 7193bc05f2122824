/-
This file proves that a tree is read as it was written, be it in one line.

What is written of a floating-point number is its shortest text, which is not dealt with
here. Everything else is read again, provided that every integer has few enough digits,
that every object has each of its keys once, and that the halves of surrogate pairs are
apart in every text.
-/

import StateContainer.Proofs.Json.Text
import StateContainer.Proofs.OrderedMap

namespace StateContainer.Json

mutual

/-- Whether a tree is read as it is written. -/
def IsRestorable : Json → Prop
  | null => True
  | bool _ => True
  | int n => Number.isWritable n = true
  | float _ => False
  | text s => HalvesApart s.toList
  | array items => AreRestorable items
  | object entries => (entries.map (·.1)).Nodup ∧ EntriesAreRestorable entries

/-- Whether this is so for all of several trees. -/
def AreRestorable : List Json → Prop
  | [] => True
  | first :: others => IsRestorable first ∧ AreRestorable others

/-- Whether this is so for the keys and the values of entries. -/
def EntriesAreRestorable : List (String × Json) → Prop
  | [] => True
  | (key, value) :: others =>
    HalvesApart key.toList ∧ IsRestorable value ∧ EntriesAreRestorable others

end

/-! ### What surrounds a tree -/

/-- Whether a text may follow a tree. -/
def IsBehindTree (rest : List Char) : Prop :=
  ∀ c, rest.head? = some c → c = ',' ∨ c = ']' ∨ c = '\x7d'

theorem isBehindTree_nil : IsBehindTree [] := by
  intro c first
  cases first

theorem isBehindTree_cons {c : Char} (closing : c = ',' ∨ c = ']' ∨ c = '\x7d')
    (rest : List Char) : IsBehindTree (c :: rest) := by
  intro d first
  cases first
  exact closing

/-- The first character of a written tree tells it from a blank and from a closing bracket. -/
def BeginsTree (text : List Char) : Prop :=
  ∃ c more, text = c :: more ∧ isSpace c = false ∧ c ≠ ']' ∧ c ≠ '\x7d'

theorem skipSpace_cons {c : Char} (visible : isSpace c = false) (rest : List Char) :
    skipSpace (c :: rest) = c :: rest := by
  rw [skipSpace, List.dropWhile_cons, visible, if_neg Bool.false_ne_true]

theorem skipSpace_blank (rest : List Char) : skipSpace (' ' :: rest) = skipSpace rest := rfl

theorem BeginsTree.skipSpace_append {text : List Char} (begins : BeginsTree text)
    (rest : List Char) : skipSpace (text ++ rest) = text ++ rest := by
  obtain ⟨c, more, rfl, visible, _⟩ := begins
  exact skipSpace_cons visible _

/-! ### Integers -/

theorem isDigit_of_isBehindTree {rest : List Char} (behind : IsBehindTree rest) {c : Char}
    (first : rest.head? = some c) :
    c.isDigit = false ∧ c ≠ '.' ∧ c ≠ 'e' ∧ c ≠ 'E' := by
  rcases behind c first with rfl | rfl | rfl <;> decide

/-- The digits of a number are taken, and nothing behind them. -/
theorem takeDigits_decimal (n : Nat) {rest : List Char} (behind : IsBehindTree rest) :
    takeDigits (Text.decimal n ++ rest) =
      ((Text.decimal n).map (fun c => c.toNat - '0'.toNat), rest) := by
  have digits : ∀ c ∈ Text.decimal n, c.isDigit = true :=
    fun c member => Text.isDigit_of_mem_decimal member
  have none : rest.takeWhile Char.isDigit = [] ∧ rest.dropWhile Char.isDigit = rest := by
    cases rest with
    | nil => exact ⟨rfl, rfl⟩
    | cons c rest =>
      have last := (isDigit_of_isBehindTree behind rfl).1
      rw [List.takeWhile_cons, List.dropWhile_cons, last]
      exact ⟨rfl, rfl⟩
  rw [takeDigits, List.takeWhile_append_of_pos digits, List.dropWhile_append_of_pos digits,
    none.1, none.2, List.append_nil]

theorem takeWhole_decimal (n : Nat) {rest : List Char} (behind : IsBehindTree rest) :
    takeWhole (Text.decimal n ++ rest) =
      some ((Text.decimal n).map (fun c => c.toNat - '0'.toNat), rest) := by
  have taken := takeDigits_decimal n behind
  by_cases zero : n = 0
  · subst zero
    rfl
  · have first := Text.head?_decimal_ne (Nat.pos_of_ne_zero zero)
    cases digits : Text.decimal n with
    | nil => exact absurd digits Nat.toDigits_ne_nil
    | cons c others =>
      rw [digits] at first taken
      rw [List.cons_append, List.map_cons] at taken
      rw [List.cons_append, takeWhole, taken]
      · rfl
      · intro rest' same
        exact first (congrArg some (List.cons.inj same).1)

/-- A number is read with its sign. -/
theorem readUnsigned_decimal {n : Nat} (few : n < tenPower Number.digitLimit) (negative : Bool)
    {rest : List Char} (behind : IsBehindTree rest) :
    readUnsigned negative (Text.decimal n ++ rest) =
      some (.int (if negative then -(n : Int) else n), rest) := by
  have count : (Text.decimal n).length ≤ Number.digitLimit :=
    (Text.length_decimal_le_iff (by decide)).mpr few
  have noFraction : takeFraction rest = ([], rest) := by
    cases rest with
    | nil => rfl
    | cons c rest =>
      rw [takeFraction]
      intro rest' same
      exact (isDigit_of_isBehindTree behind rfl).2.1 (List.cons.inj same).1
  have noExponent : takeExponent rest = (none, rest) := by
    cases rest with
    | nil => rfl
    | cons c rest =>
      have first := (isDigit_of_isBehindTree behind rfl).2.2
      rw [takeExponent, if_neg]
      simp [first.1, first.2]
  rw [readUnsigned, takeWhole_decimal n behind]
  simp only [Option.bind_eq_bind, Option.bind_some, noFraction, noExponent, List.length_map]
  rw [if_neg (by omega), Text.ofDigits_decimal]
  rfl

/-- No word stands in front of a text that begins with none. -/
theorem findSome?_words {text : List Char}
    (absent : ∀ word ∈ words.map (·.1), word.toList.isPrefixOf text = false) :
    (words.findSome? fun (word, tree) => (after? word text).map (tree, ·)) = none := by
  rw [List.findSome?_eq_none_iff]
  rintro ⟨word, tree⟩ member
  have differ := absent word (List.mem_map_of_mem member)
  simp only [after?, differ, Bool.false_eq_true, if_false, Option.map_none]

/-- The words that stand for trees do not begin with a digit, not even behind a sign. -/
theorem isPrefixOf_digit {c : Char} (digit : c.isDigit = true) (rest : List Char) :
    ∀ word ∈ words.map (·.1), word.toList.isPrefixOf (c :: rest) = false ∧
      word.toList.isPrefixOf ('-' :: c :: rest) = false := by
  have differ : ∀ letter : Char, letter.isDigit = false → letter ≠ c := by
    rintro letter noDigit rfl
    rw [noDigit] at digit
    exact Bool.false_ne_true digit
  have names : words.map (·.1) = ["null", "true", "false", "NaN", "Infinity", "-Infinity"] := rfl
  intro word member
  rw [names] at member
  simp only [List.mem_cons, List.not_mem_nil, or_false] at member
  rcases member with rfl | rfl | rfl | rfl | rfl | rfl
  · simp [List.isPrefixOf, differ 'n' rfl]
  · simp [List.isPrefixOf, differ 't' rfl]
  · simp [List.isPrefixOf, differ 'f' rfl]
  · simp [List.isPrefixOf, differ 'N' rfl]
  · simp [List.isPrefixOf, differ 'I' rfl]
  · simp [List.isPrefixOf, differ '-' rfl, differ 'I' rfl]

theorem exists_cons_decimal (n : Nat) :
    ∃ c others, Text.decimal n = c :: others ∧ c.isDigit = true := by
  cases digits : Text.decimal n with
  | nil => exact absurd digits Nat.toDigits_ne_nil
  | cons c others =>
    exact ⟨c, others, rfl, Text.isDigit_of_mem_decimal (digits ▸ List.mem_cons_self)⟩

/-- An integer is read as it was written. -/
theorem readLeaf_writeInt {n : Int} (few : Number.isWritable n = true) {rest : List Char}
    (behind : IsBehindTree rest) : readLeaf (writeInt n ++ rest) = some (.int n, rest) := by
  have bounded : n.natAbs < tenPower Number.digitLimit := of_decide_eq_true few
  cases n with
  | ofNat m =>
    have read : readUnsigned false (Text.decimal m ++ rest) = some (.int (.ofNat m), rest) :=
      readUnsigned_decimal bounded false behind
    obtain ⟨c, others, digits, digit⟩ := exists_cons_decimal m
    rw [writeInt, digits, List.cons_append, readLeaf,
      findSome?_words fun word member => (isPrefixOf_digit digit _ word member).1]
    · rw [digits, List.cons_append] at read
      exact read
    · intro unsigned same
      rw [(List.cons.inj same).1] at digit
      cases digit
  | negSucc m =>
    have read : readUnsigned true (Text.decimal (m + 1) ++ rest) = some (.int (.negSucc m), rest) :=
      readUnsigned_decimal bounded true behind
    obtain ⟨c, others, digits, digit⟩ := exists_cons_decimal (m + 1)
    rw [writeInt, digits, List.cons_append, List.cons_append, readLeaf,
      findSome?_words fun word member => (isPrefixOf_digit digit _ word member).2]
    rw [digits, List.cons_append] at read
    exact read

/-! ### Trees -/

/-- What is read in front of a text that begins with no quote and no opening bracket. -/
theorem readTree_leaf {c : Char} (plain : c ≠ '"' ∧ c ≠ '[' ∧ c ≠ '\x7b') (fuel : Nat)
    (rest : List Char) : readTree (fuel + 1) (c :: rest) = readLeaf (c :: rest) := by
  rw [readTree]
  · exact fun _ same => plain.1 (List.cons.inj same).1
  · exact fun _ same => plain.2.1 (List.cons.inj same).1
  · exact fun _ same => plain.2.2 (List.cons.inj same).1

theorem exists_cons_writeInt (n : Int) :
    ∃ c more, writeInt n = c :: more ∧ (c.isDigit = true ∨ c = '-') := by
  cases n with
  | ofNat m =>
    obtain ⟨c, others, digits, digit⟩ := exists_cons_decimal m
    exact ⟨c, others, digits, Or.inl digit⟩
  | negSucc m => exact ⟨'-', _, rfl, Or.inr rfl⟩

/-- A digit or a sign is told from every other beginning of a tree. -/
theorem differ_of_digit {c : Char} (number : c.isDigit = true ∨ c = '-') :
    isSpace c = false ∧ (c ≠ ']' ∧ c ≠ '\x7d') ∧ c ≠ '"' ∧ c ≠ '[' ∧ c ≠ '\x7b' := by
  rcases number with digit | rfl
  · have differ : ∀ other : Char, other.isDigit = false → c ≠ other := by
      rintro other noDigit rfl
      rw [noDigit] at digit
      cases digit
    refine ⟨?_, ⟨differ _ rfl, differ _ rfl⟩, differ _ rfl, differ _ rfl, differ _ rfl⟩
    simp [isSpace, differ ' ' rfl, differ '\t' rfl, differ '\n' rfl, differ '\r' rfl]
  · decide

theorem beginsTree_writeChars {tree : Json} (restorable : IsRestorable tree) :
    BeginsTree (writeChars tree) := by
  cases tree with
  | null => exact ⟨'n', _, rfl, by decide⟩
  | bool b => cases b <;> exact ⟨_, _, rfl, by decide⟩
  | int n =>
    obtain ⟨c, more, written, number⟩ := exists_cons_writeInt n
    exact ⟨c, more, written, (differ_of_digit number).1, (differ_of_digit number).2.1⟩
  | float x => exact restorable.elim
  | text s => exact ⟨'"', _, rfl, by decide⟩
  | array items => exact ⟨'[', _, rfl, by decide⟩
  | object entries => exact ⟨'\x7b', _, rfl, by decide⟩

theorem BeginsTree.length_pos {text : List Char} (begins : BeginsTree text) : 0 < text.length := by
  obtain ⟨c, more, rfl, _⟩ := begins
  exact Nat.succ_pos _

theorem writeItems_cons_cons (item next : Json) (others : List Json) :
    writeItems (item :: next :: others) =
      writeChars item ++ ',' :: ' ' :: writeItems (next :: others) := by
  rw [writeItems]

theorem beginsTree_writeItems {first : Json} {others : List Json}
    (restorable : AreRestorable (first :: others)) : BeginsTree (writeItems (first :: others)) := by
  obtain ⟨c, more, written, visible⟩ := beginsTree_writeChars restorable.1
  cases others with
  | nil => exact ⟨c, more, written, visible⟩
  | cons next others =>
    rw [writeItems_cons_cons, written]
    exact ⟨c, _, rfl, visible⟩

theorem exists_writeEntries (key : String) (value : Json) (others : List (String × Json)) :
    ∃ more, writeEntries ((key, value) :: others) = '"' :: more := by
  cases others with
  | nil => exact ⟨_, rfl⟩
  | cons next others =>
    rw [writeEntries]
    exact ⟨_, rfl⟩

/-- A leaf but a text is read as it was written. -/
theorem readLeaf_writeLeaf {tree : Json} (restorable : IsRestorable tree)
    (leaf : tree = .null ∨ (∃ b, tree = .bool b) ∨ ∃ n, tree = .int n) {rest : List Char}
    (behind : IsBehindTree rest) (fuel : Nat) :
    readTree (fuel + 1) (writeChars tree ++ rest) = some (tree, rest) := by
  rcases leaf with rfl | ⟨b, rfl⟩ | ⟨n, rfl⟩
  · exact readTree_leaf (by decide) fuel _
  · cases b <;> exact readTree_leaf (by decide) fuel _
  · obtain ⟨c, more, written, number⟩ := exists_cons_writeInt n
    have read := readLeaf_writeInt restorable behind
    rw [written] at read
    rw [writeChars, writeLeaf, written]
    · exact (readTree_leaf (differ_of_digit number).2.2 fuel _).trans read
    · simp
    · simp

mutual

/-- A tree is read as it was written. A part of it takes one character and one step of two at
least, so that the fuel suffices. -/
theorem readTree_writeChars :
    ∀ (tree : Json), IsRestorable tree → ∀ (fuel : Nat) (rest : List Char),
      2 * (writeChars tree).length ≤ fuel + 2 → IsBehindTree rest →
      readTree (fuel + 1) (writeChars tree ++ rest) = some (tree, rest)
  | .null, restorable, fuel, _, _, behind =>
    readLeaf_writeLeaf restorable (.inl rfl) behind fuel
  | .bool b, restorable, fuel, _, _, behind =>
    readLeaf_writeLeaf restorable (.inr (.inl ⟨b, rfl⟩)) behind fuel
  | .int n, restorable, fuel, _, _, behind =>
    readLeaf_writeLeaf restorable (.inr (.inr ⟨n, rfl⟩)) behind fuel
  | .float _, restorable, _, _, _, _ => restorable.elim
  | .text s, apart, fuel, rest, _, _ => by
    have written : writeChars (.text s) ++ rest =
        '"' :: (s.toList.flatMap writeChar ++ '"' :: rest) := by
      simp [writeChars, writeLeaf, writeText]
    rw [written, readTree, readText_writeText apart]
    rfl
  | .array [], _, fuel, rest, _, _ => rfl
  | .array (first :: others), restorable, fuel, rest, enough, _ => by
    have begins := beginsTree_writeItems restorable
    have written : writeChars (.array (first :: others)) ++ rest =
        '[' :: (writeItems (first :: others) ++ ']' :: rest) := by
      simp [writeChars]
    have length : (writeChars (.array (first :: others))).length =
        (writeItems (first :: others)).length + 2 := by
      simp [writeChars]
    have positive := begins.length_pos
    obtain ⟨less, rfl⟩ : ∃ less, fuel = less + 1 := ⟨fuel - 1, by omega⟩
    have inner := readItems_writeItems (first :: others) restorable (List.cons_ne_nil _ _) less rest
      (by omega)
    rw [written, readTree, begins.skipSpace_append]
    split
    · next after same =>
      obtain ⟨c, more, items, _, differ, _⟩ := begins
      rw [items] at same
      exact absurd (List.cons.inj same).1 differ
    · rw [inner]
      rfl
  | .object [], _, fuel, rest, _, _ => rfl
  | .object ((key, value) :: others), restorable, fuel, rest, enough, _ => by
    obtain ⟨more, entries⟩ := exists_writeEntries key value others
    have written : writeChars (.object ((key, value) :: others)) ++ rest =
        '\x7b' :: (writeEntries ((key, value) :: others) ++ '\x7d' :: rest) := by
      simp [writeChars]
    have length : (writeChars (.object ((key, value) :: others))).length =
        (writeEntries ((key, value) :: others)).length + 2 := by
      simp [writeChars]
    have positive : 0 < (writeEntries ((key, value) :: others)).length := by
      rw [entries]
      exact Nat.succ_pos _
    obtain ⟨less, rfl⟩ : ∃ less, fuel = less + 1 := ⟨fuel - 1, by omega⟩
    have inner := readEntries_writeEntries ((key, value) :: others) restorable.2 (List.cons_ne_nil _ _)
      less rest (by omega)
    have first : skipSpace (writeEntries ((key, value) :: others) ++ '\x7d' :: rest) =
        writeEntries ((key, value) :: others) ++ '\x7d' :: rest := by
      rw [entries]
      exact skipSpace_cons (by decide) _
    rw [written, readTree, first]
    split
    · next after same =>
      rw [entries] at same
      exact absurd (List.cons.inj same).1 (by decide)
    · rw [inner]
      simp only [Option.bind_eq_bind, Option.bind_some, OrderedMap.entries_ofList restorable.1]
      rfl

/-- The items of an array are read as they were written. -/
theorem readItems_writeItems :
    ∀ (items : List Json), AreRestorable items → items ≠ [] → ∀ (fuel : Nat) (rest : List Char),
      2 * (writeItems items).length ≤ fuel + 1 →
      readItems (fuel + 1) (writeItems items ++ ']' :: rest) = some (items, rest)
  | [], _, some_, _, _, _ => absurd rfl some_
  | [first], restorable, _, fuel, rest, enough => by
    have positive := (beginsTree_writeChars restorable.1).length_pos
    rw [writeItems] at enough ⊢
    obtain ⟨less, rfl⟩ : ∃ less, fuel = less + 1 := ⟨fuel - 1, by omega⟩
    have inner := readTree_writeChars first restorable.1 less (']' :: rest) (by omega)
      (isBehindTree_cons (by decide) rest)
    rw [readItems, inner]
    rfl
  | first :: next :: others, restorable, _, fuel, rest, enough => by
    have positive := (beginsTree_writeChars restorable.1).length_pos
    rw [writeItems_cons_cons] at enough ⊢
    simp only [List.length_append, List.length_cons] at enough
    obtain ⟨less, rfl⟩ : ∃ less, fuel = less + 1 := ⟨fuel - 1, by omega⟩
    have inner := readTree_writeChars first restorable.1 less
      (',' :: ' ' :: writeItems (next :: others) ++ ']' :: rest) (by omega)
      (isBehindTree_cons (by decide) _)
    have later := readItems_writeItems (next :: others) restorable.2 (List.cons_ne_nil _ _) less rest
      (by omega)
    have skipped := (beginsTree_writeItems restorable.2).skipSpace_append (']' :: rest)
    rw [List.append_assoc, readItems, inner]
    simp only [Option.bind_eq_bind, Option.bind_some, List.cons_append]
    rw [skipSpace_cons (by decide)]
    simp only [skipSpace_blank, skipped, later, Option.bind_some]
    rfl

/-- The entries of an object are read as they were written. -/
theorem readEntries_writeEntries :
    ∀ (entries : List (String × Json)), EntriesAreRestorable entries → entries ≠ [] →
      ∀ (fuel : Nat) (rest : List Char), 2 * (writeEntries entries).length ≤ fuel + 1 →
      readEntries (fuel + 1) (writeEntries entries ++ '\x7d' :: rest) = some (entries, rest)
  | [], _, some_, _, _, _ => absurd rfl some_
  | [(key, value)], restorable, _, fuel, rest, enough => by
    have begins := beginsTree_writeChars restorable.2.1
    have positive := begins.length_pos
    have written : writeEntries [(key, value)] ++ '\x7d' :: rest =
        '"' :: (key.toList.flatMap writeChar ++
          '"' :: ':' :: ' ' :: (writeChars value ++ '\x7d' :: rest)) := by
      simp [writeEntries, writeText]
    have length : (writeChars value).length + 1 ≤ (writeEntries [(key, value)]).length := by
      rw [writeEntries]
      simp only [List.length_append, List.length_cons]
      omega
    obtain ⟨less, rfl⟩ : ∃ less, fuel = less + 1 := ⟨fuel - 1, by omega⟩
    have inner := readTree_writeChars value restorable.2.1 less ('\x7d' :: rest) (by omega)
      (isBehindTree_cons (by decide) rest)
    rw [written, readEntries, readText_writeText restorable.1]
    simp only [Option.bind_eq_bind, Option.bind_some]
    rw [skipSpace_cons (by decide)]
    simp only [skipSpace_blank, begins.skipSpace_append, inner, Option.bind_some]
    rfl
  | (key, value) :: (next, item) :: others, restorable, _, fuel, rest, enough => by
    have begins := beginsTree_writeChars restorable.2.1
    have positive := begins.length_pos
    have written : writeEntries ((key, value) :: (next, item) :: others) ++ '\x7d' :: rest =
        '"' :: (key.toList.flatMap writeChar ++ '"' :: ':' :: ' ' :: (writeChars value ++
          ',' :: ' ' :: (writeEntries ((next, item) :: others) ++ '\x7d' :: rest))) := by
      rw [writeEntries]
      simp [writeText]
    have length : (writeChars value).length + (writeEntries ((next, item) :: others)).length + 2 ≤
        (writeEntries ((key, value) :: (next, item) :: others)).length := by
      rw [writeEntries]
      simp only [List.length_append, List.length_cons]
      omega
    obtain ⟨less, rfl⟩ : ∃ less, fuel = less + 1 := ⟨fuel - 1, by omega⟩
    have inner := readTree_writeChars value restorable.2.1 less
      (',' :: ' ' :: (writeEntries ((next, item) :: others) ++ '\x7d' :: rest)) (by omega)
      (isBehindTree_cons (by decide) _)
    have later := readEntries_writeEntries ((next, item) :: others) restorable.2.2
      (List.cons_ne_nil _ _) less rest (by omega)
    have skipped : skipSpace (writeEntries ((next, item) :: others) ++ '\x7d' :: rest) =
        writeEntries ((next, item) :: others) ++ '\x7d' :: rest := by
      obtain ⟨more, entries⟩ := exists_writeEntries next item others
      rw [entries]
      exact skipSpace_cons (by decide) _
    rw [written, readEntries, readText_writeText restorable.1]
    simp only [Option.bind_eq_bind, Option.bind_some]
    rw [skipSpace_cons (by decide)]
    simp only [skipSpace_blank, begins.skipSpace_append, inner, Option.bind_some]
    rw [skipSpace_cons (by decide)]
    simp only [skipSpace_blank, skipped, later, Option.bind_some]
    rfl

end

/-! ### Whole texts -/

/-- A whole text is read as the tree that it was written from. -/
theorem read?_write {tree : Json} (restorable : IsRestorable tree) :
    read? tree.write = some tree := by
  have begins := beginsTree_writeChars restorable
  have whole := readTree_writeChars tree restorable (2 * (writeChars tree).length) []
    (by omega) isBehindTree_nil
  rw [List.append_nil] at whole
  have first := begins.skipSpace_append []
  rw [List.append_nil] at first
  rw [read?, write, String.toList_ofList, readChars, first, whole]
  rfl

end StateContainer.Json
