import InfoFlow.Proofs.Json.Lexical

/-!
# Values are read as they were written

`Plain` are the values that writing loses nothing of: their numbers are integers of the range of
JSON texts, and they are nested no deeper than the reader goes. `Plain.recovers` says that reading
takes the written form of such a value off the head of a text, whatever layout it was written in and
whatever follows; `parse_write` is the same for whole texts.
-/

namespace InfoFlow.Json

/-- The values whose numbers are integers in range and that are nested at most `depth` deep. -/
inductive Plain : Nat → Json → Prop where
  | null {depth} :
    Plain depth .null
  | bool {depth b} :
    Plain depth (.bool b)
  | int {depth n} :
    InRange n →
    Plain depth (.int n)
  | str {depth s} :
    Plain depth (.str s)
  | arr {depth items} :
    (∀ item ∈ items, Plain depth item) →
    Plain (depth + 1) (.arr items)
  | obj {depth fields} :
    (∀ field ∈ fields, Plain depth field.2) →
    Plain (depth + 1) (.obj fields)

/-- What is plain up to some depth is plain up to a greater one. -/
lemma Plain.mono {depth value} (h : Plain depth value) {depth'} (le : depth ≤ depth') :
    Plain depth' value := by
  induction h generalizing depth' with
  | null => exact .null
  | bool => exact .bool
  | int range => exact .int range
  | str => exact .str
  | @arr depth items _ ih =>
    obtain ⟨more, rfl⟩ := Nat.exists_eq_add_of_lt le
    exact .arr fun item mem => ih item mem (Nat.le_add_right depth more)
  | @obj depth fields _ ih =>
    obtain ⟨more, rfl⟩ := Nat.exists_eq_add_of_lt le
    exact .obj fun field mem => ih field mem (Nat.le_add_right depth more)

/-- There is nothing but blanks in the text. -/
def Blanks (text : List Char) : Prop :=
  ∀ c ∈ text, isBlank c = true

lemma Blanks.nil : Blanks [] :=
  nofun

/-- The layout puts nothing but blanks between the parts of a value. -/
structure Layout.Airy (layout : Layout) : Prop where
  newline : ∀ level, Blanks (layout.newline level)
  afterColon : Blanks layout.afterColon

lemma Layout.compact_airy : compact.Airy where
  newline _ := .nil
  afterColon := .nil

lemma Layout.indented_airy : indented.Airy where
  newline level := by
    intro c mem
    rcases List.mem_cons.1 mem with rfl | mem
    · rfl
    · rw [List.eq_of_mem_replicate mem]
      rfl
  afterColon := by
    intro c mem
    rw [List.mem_singleton.1 mem]
    rfl

/-- Blanks are skipped up to the first other character. -/
lemma skipBlanks_append {blanks : List Char} (h : Blanks blanks) {c : Char} (hc : isBlank c = false)
    (tail : List Char) : skipBlanks (blanks ++ c :: tail) = c :: tail := by
  unfold skipBlanks
  rw [List.dropWhile_append_of_pos h, List.dropWhile_cons_of_neg (by simp [hc])]

/-- Where there are no blanks, nothing is skipped. -/
lemma skipBlanks_cons {c : Char} (hc : isBlank c = false) (tail : List Char) :
    skipBlanks (c :: tail) = c :: tail :=
  skipBlanks_append .nil hc tail

/-- The four blanks. -/
lemma eq_of_isBlank {c : Char} (h : isBlank c = true) :
    c = ' ' ∨ c = '\t' ∨ c = '\n' ∨ c = '\r' := by
  simp only [isBlank, Bool.or_eq_true, decide_eq_true_eq] at h
  rcases h with ((h | h) | h) | h
  · exact .inl h
  · exact .inr (.inl h)
  · exact .inr (.inr (.inl h))
  · exact .inr (.inr (.inr h))

/-- A minus sign or a digit is no other character. -/
lemma ne_of_numeral {c d : Char} (head : c = '-' ∨ c.isDigit = true) (minus : d ≠ '-')
    (digit : d.isDigit = false) : c ≠ d := by
  rintro rfl
  rcases head with head | head
  · exact minus head
  · rw [head] at digit
    cases digit

/-- No number starts with a blank. -/
lemma isBlank_numeral {c : Char} (head : c = '-' ∨ c.isDigit = true) : isBlank c = false := by
  cases blank : isBlank c with
  | false => rfl
  | true =>
    rcases eq_of_isBlank blank with h | h | h | h <;>
      exact absurd h (ne_of_numeral head (by decide) (by decide))

/-- A number ends where blanks or a mark of the syntax follow. -/
lemma EndsNumber.mark {blanks : List Char} (h : Blanks blanks) {c : Char}
    (hc : c = ',' ∨ c = ']' ∨ c = '\x7d') (tail : List Char) :
    EndsNumber (blanks ++ c :: tail) := by
  intro d rest eq
  cases blanks with
  | nil =>
    cases (List.cons.inj eq).1
    rcases hc with rfl | rfl | rfl <;> decide
  | cons b blanks =>
    have blank : isBlank d = true := by
      rw [← (List.cons.inj eq).1]
      exact h b List.mem_cons_self
    rcases eq_of_isBlank blank with rfl | rfl | rfl | rfl <;> decide

/-- After blanks an atom is read, unless an array or an object starts. -/
lemma readValue_atom {fuel depth : Nat} {blanks : List Char} (h : Blanks blanks) {c : Char}
    (hc : isBlank c = false) (harr : c ≠ '[') (hobj : c ≠ '\x7b') (tail : List Char) :
    readValue (fuel + 1) depth (blanks ++ c :: tail) = readAtom (c :: tail) := by
  rw [readValue, skipBlanks_append h hc]
  simp only [if_neg harr, if_neg hobj]

/-- A word is read as its value. -/
lemma readWord_append (value : Json) (word rest : List Char) :
    readWord value word (word ++ rest) = .ok (value, rest) := by
  induction word with
  | nil => rw [List.nil_append, readWord]
  | cons w word ih => rw [List.cons_append, readWord, if_pos rfl, ih]

/-- A quoted text is read as a string. -/
lemma readAtom_quote (s : String) (rest : List Char) :
    readAtom (quote s.toList ++ rest) = .ok (.str s, rest) := by
  obtain ⟨body, text, read⟩ := unquote_quote s.toList rest
  rw [text, readAtom, if_pos rfl, read]
  simp only [bind, Except.bind, String.ofList_toList]
  rfl

/-- A number that was written is read as such. -/
lemma readAtom_writeInt {n : Int} {rest : List Char} (range : InRange n) (ends : EndsNumber rest) :
    readAtom (writeInt n ++ rest) = .ok (.int n, rest) := by
  obtain ⟨c, tail, text, head⟩ := writeInt_head n
  have other : ∀ d, d ≠ '-' → d.isDigit = false → c ≠ d := fun _ => ne_of_numeral head
  have read := readNumber_writeInt range ends
  rw [text, List.cons_append] at read ⊢
  rw [readAtom, if_neg (other '"' (by decide) (by decide)),
    if_neg (other 'n' (by decide) (by decide)), if_neg (other 't' (by decide) (by decide)),
    if_neg (other 'f' (by decide) (by decide)), if_pos head, read]

/-- The first character of a value is no blank and closes no array. -/
lemma Plain.write_head {depth value} (h : Plain depth value) (layout : Layout) (level : Nat) :
    ∃ c tail, write layout level value = c :: tail ∧ isBlank c = false ∧ c ≠ ']' := by
  cases h with
  | null => exact ⟨_, _, write.eq_1 layout level, by decide, by decide⟩
  | @bool _ b =>
    cases b with
    | true => exact ⟨_, _, write.eq_2 layout level, by decide, by decide⟩
    | false => exact ⟨_, _, write.eq_3 layout level, by decide, by decide⟩
  | @int _ n _ =>
    obtain ⟨c, tail, text, head⟩ := writeInt_head n
    exact ⟨c, tail, (write.eq_4 layout level n).trans text, isBlank_numeral head,
      ne_of_numeral head (by decide) (by decide)⟩
  | str => exact ⟨_, _, write.eq_6 layout level _, by decide, by decide⟩
  | @arr _ items _ =>
    cases items with
    | nil => exact ⟨_, _, write.eq_7 layout level, by decide, by decide⟩
    | cons item items => exact ⟨_, _, write.eq_8 layout level item items, by decide, by decide⟩
  | @obj _ fields _ =>
    cases fields with
    | nil => exact ⟨_, _, write.eq_9 layout level, by decide, by decide⟩
    | cons field fields =>
      exact ⟨_, _, write.eq_10 layout level field.1 field.2 fields, by decide, by decide⟩

/-- Reading takes the written form of the value off the head of every text that does not go on with
it, if it may take a step for each character. -/
def Recovers (layout : Layout) (depth : Nat) (value : Json) : Prop :=
  ∀ level fuel blanks rest, Blanks blanks → (write layout level value).length ≤ fuel →
    EndsNumber rest →
    readValue fuel depth (blanks ++ (write layout level value ++ rest)) = .ok (value, rest)

section

variable {layout : Layout} {fuel depth : Nat} {blanks text rest : List Char}

/-- An atom is read back in one step; its first character opens neither array nor object. -/
lemma Recovers.atom {value}
    (heads : ∀ level, ∃ c tail, write layout level value = c :: tail ∧ isBlank c = false ∧
      c ≠ '[' ∧ c ≠ '\x7b')
    (reads : ∀ level rest, EndsNumber rest →
      readAtom (write layout level value ++ rest) = .ok (value, rest)) :
    Recovers layout depth value := by
  intro level fuel blanks rest h enough ends
  obtain ⟨c, tail, head, notBlank, notArr, notObj⟩ := heads level
  have read := reads level rest ends
  rw [head, List.length_cons] at enough
  obtain ⟨fuel, rfl⟩ := Nat.exists_eq_add_one.2 (show 0 < fuel by omega)
  rw [head, List.cons_append] at read ⊢
  rw [readValue_atom h notBlank notArr notObj, read]

/-- After an item and a comma there are more items. -/
lemma readItems_next {taken item} (h : Blanks blanks)
    (read : readValue fuel depth text = .ok (item, blanks ++ ',' :: rest)) :
    readItems (fuel + 1) depth taken text = readItems fuel depth (item :: taken) rest := by
  rw [readItems, read]
  simp only [bind, Except.bind, skipBlanks_append h (show isBlank ',' = false by decide), if_true]

/-- After an item and a bracket the array is complete. -/
lemma readItems_last {taken item} (h : Blanks blanks)
    (read : readValue fuel depth text = .ok (item, blanks ++ ']' :: rest)) :
    readItems (fuel + 1) depth taken text = .ok (.arr (taken.reverse ++ [item]), rest) := by
  rw [readItems, read]
  simp only [bind, Except.bind, skipBlanks_append h (show isBlank ']' = false by decide),
    Char.reduceEq, if_false, if_true, List.reverse_cons]
  rfl

/-- The items of an array are read back, together with its end. -/
lemma readItems_write (airy : layout.Airy) {level item items taken}
    (all : ∀ x ∈ item :: items, Recovers layout depth x) (h : Blanks blanks)
    (enough : (write layout (level + 1) item).length + (writeItems layout level items).length ≤
      fuel) :
    readItems fuel depth taken
        (blanks ++ (write layout (level + 1) item ++ (writeItems layout level items ++ rest))) =
      .ok (.arr (taken.reverse ++ item :: items), rest) := by
  induction items generalizing item taken fuel blanks with
  | nil =>
    rw [writeItems.eq_1, List.length_append, List.length_singleton] at enough
    obtain ⟨fuel, rfl⟩ := Nat.exists_eq_add_one.2 (show 0 < fuel by omega)
    rw [writeItems.eq_1, List.append_assoc, List.singleton_append]
    refine readItems_last (airy.newline level) (all item List.mem_cons_self _ _ _ _ h ?_ ?_)
    · omega
    · exact EndsNumber.mark (airy.newline level) (.inr (.inl rfl)) rest
  | cons next items ih =>
    rw [writeItems.eq_2, List.length_append, List.length_append, List.length_cons] at enough
    obtain ⟨fuel, rfl⟩ := Nat.exists_eq_add_one.2 (show 0 < fuel by omega)
    rw [writeItems.eq_2, List.append_assoc, List.append_assoc, List.cons_append]
    have read : readValue fuel depth _ = .ok (item, _) :=
      all item List.mem_cons_self (level + 1) fuel blanks
        (',' :: (layout.newline (level + 1) ++
          (write layout (level + 1) next ++ (writeItems layout level items ++ rest)))) h
        (by omega) (EndsNumber.mark .nil (.inl rfl) _)
    rw [readItems_next .nil read,
      ih (fun x mem => all x (List.mem_cons_of_mem _ mem)) (airy.newline (level + 1)) (by omega),
      List.reverse_cons, List.append_assoc, List.singleton_append]

/-- A quoted name is read up to its colon. -/
lemma readName_quote (h : Blanks blanks) (name : String) :
    readName (blanks ++ (quote name.toList ++ ':' :: rest)) = .ok (name, rest) := by
  obtain ⟨body, text, read⟩ := unquote_quote name.toList (':' :: rest)
  rw [readName, text, skipBlanks_append h (show isBlank '"' = false by decide)]
  simp only [if_true, read, bind, Except.bind,
    skipBlanks_cons (show isBlank ':' = false by decide), String.ofList_toList]
  rfl

/-- After a field and a comma there are more fields. -/
lemma readFields_next {taken name value between} (h : Blanks blanks)
    (named : readName text = .ok (name, between))
    (read : readValue fuel depth between = .ok (value, blanks ++ ',' :: rest)) :
    readFields (fuel + 1) depth taken text =
      readFields fuel depth ((name, value) :: taken) rest := by
  rw [readFields, named]
  simp only [bind, Except.bind, read, skipBlanks_append h (show isBlank ',' = false by decide),
    if_true]

/-- After a field and a brace the object is complete. -/
lemma readFields_last {taken name value between} (h : Blanks blanks)
    (named : readName text = .ok (name, between))
    (read : readValue fuel depth between = .ok (value, blanks ++ '\x7d' :: rest)) :
    readFields (fuel + 1) depth taken text =
      .ok (.obj (taken.reverse ++ [(name, value)]), rest) := by
  rw [readFields, named]
  simp only [bind, Except.bind, read, skipBlanks_append h (show isBlank '\x7d' = false by decide),
    Char.reduceEq, if_false, if_true, List.reverse_cons]
  rfl

/-- The fields of an object are read back, together with its end. -/
lemma readFields_write (airy : layout.Airy) {level name value fields taken}
    (all : ∀ field ∈ (name, value) :: fields, Recovers layout depth field.2) (h : Blanks blanks)
    (enough : (write layout (level + 1) value).length + (writeFields layout level fields).length ≤
      fuel) :
    readFields fuel depth taken (blanks ++ (quote name.toList ++ ':' :: (layout.afterColon ++
        (write layout (level + 1) value ++ (writeFields layout level fields ++ rest))))) =
      .ok (.obj (taken.reverse ++ (name, value) :: fields), rest) := by
  induction fields generalizing name value taken fuel blanks with
  | nil =>
    rw [writeFields.eq_1, List.length_append, List.length_singleton] at enough
    obtain ⟨fuel, rfl⟩ := Nat.exists_eq_add_one.2 (show 0 < fuel by omega)
    rw [writeFields.eq_1, List.append_assoc, List.singleton_append]
    refine readFields_last (airy.newline level) (readName_quote h name)
      (all (name, value) List.mem_cons_self _ _ _ _ airy.afterColon ?_ ?_)
    · show (write layout (level + 1) value).length ≤ fuel
      omega
    · exact EndsNumber.mark (airy.newline level) (.inr (.inr rfl)) rest
  | cons next fields ih =>
    obtain ⟨nextName, nextValue⟩ := next
    have split : writeFields layout level ((nextName, nextValue) :: fields) ++ rest =
        ',' :: (layout.newline (level + 1) ++ (quote nextName.toList ++ ':' :: (layout.afterColon ++
          (write layout (level + 1) nextValue ++ (writeFields layout level fields ++ rest))))) := by
      simp only [writeFields.eq_2, List.append_assoc, List.cons_append]
    have length : (write layout (level + 1) nextValue).length +
        (writeFields layout level fields).length + 1 ≤
          (writeFields layout level ((nextName, nextValue) :: fields)).length := by
      simp only [writeFields.eq_2, List.length_append, List.length_cons]
      omega
    obtain ⟨fuel, rfl⟩ := Nat.exists_eq_add_one.2 (show 0 < fuel by omega)
    rw [split]
    have read : readValue fuel depth _ = .ok (value, _) :=
      all (name, value) List.mem_cons_self (level + 1) fuel layout.afterColon
        (',' :: (layout.newline (level + 1) ++ (quote nextName.toList ++ ':' ::
          (layout.afterColon ++ (write layout (level + 1) nextValue ++
            (writeFields layout level fields ++ rest))))))
        airy.afterColon (show (write layout (level + 1) value).length ≤ fuel by omega)
        (EndsNumber.mark .nil (.inl rfl) _)
    rw [readFields_next .nil (readName_quote h name) read,
      ih (fun field mem => all field (List.mem_cons_of_mem _ mem)) (airy.newline (level + 1))
        (by omega),
      List.reverse_cons, List.append_assoc, List.singleton_append]

/-- An array that is not empty is read item by item. -/
lemma readValue_items {inner c tail} (h : Blanks blanks) (hinner : Blanks inner)
    (hc : isBlank c = false) (notEnd : c ≠ ']') :
    readValue (fuel + 1) (depth + 1) (blanks ++ '[' :: (inner ++ c :: tail)) =
      readItems fuel depth [] (c :: tail) := by
  rw [readValue, skipBlanks_append h (show isBlank '[' = false by decide)]
  simp only [if_true, Nat.add_one_ne_zero, if_false, skipBlanks_append hinner hc,
    Nat.add_sub_cancel]
  split
  case h_1 heq => exact absurd (List.cons.inj heq).1 notEnd
  case h_2 => rfl

/-- An object that is not empty is read field by field. -/
lemma readValue_fields {inner tail} (h : Blanks blanks) (hinner : Blanks inner) :
    readValue (fuel + 1) (depth + 1) (blanks ++ '\x7b' :: (inner ++ '"' :: tail)) =
      readFields fuel depth [] ('"' :: tail) := by
  rw [readValue, skipBlanks_append h (show isBlank '\x7b' = false by decide)]
  simp only [Char.reduceEq, if_true, Nat.add_one_ne_zero, if_false,
    skipBlanks_append hinner (show isBlank '"' = false by decide), Nat.add_sub_cancel]
  rfl

/-- An array is read back if its items are. -/
lemma Recovers.arr (airy : layout.Airy) {items} (plain : ∀ item ∈ items, Plain depth item)
    (all : ∀ item ∈ items, Recovers layout depth item) :
    Recovers layout (depth + 1) (.arr items) := by
  intro level fuel blanks rest h enough ends
  cases items with
  | nil =>
    rw [write.eq_7, List.length_cons] at enough
    obtain ⟨fuel, rfl⟩ := Nat.exists_eq_add_one.2 (show 0 < fuel by omega)
    rw [write.eq_7, List.cons_append, readValue,
      skipBlanks_append h (show isBlank '[' = false by decide)]
    rfl
  | cons item items =>
    rw [write.eq_8, List.length_append, List.length_append, List.length_cons] at enough
    obtain ⟨fuel, rfl⟩ := Nat.exists_eq_add_one.2 (show 0 < fuel by omega)
    obtain ⟨c, tail, head, notBlank, notEnd⟩ :=
      (plain item List.mem_cons_self).write_head layout (level + 1)
    have read : readItems fuel depth []
        (write layout (level + 1) item ++ (writeItems layout level items ++ rest)) =
          .ok (.arr (item :: items), rest) :=
      readItems_write airy all .nil (by omega)
    rw [head, List.cons_append] at read
    rw [write.eq_8, List.append_assoc, List.append_assoc, List.cons_append, head,
      List.cons_append, readValue_items h (airy.newline (level + 1)) notBlank notEnd]
    exact read

/-- An object is read back if the values of its fields are. -/
lemma Recovers.obj (airy : layout.Airy) {fields : List (String × Json)}
    (all : ∀ field ∈ fields, Recovers layout depth field.2) :
    Recovers layout (depth + 1) (.obj fields) := by
  intro level fuel blanks rest h enough ends
  cases fields with
  | nil =>
    rw [write.eq_9, List.length_cons] at enough
    obtain ⟨fuel, rfl⟩ := Nat.exists_eq_add_one.2 (show 0 < fuel by omega)
    rw [write.eq_9, List.cons_append, readValue,
      skipBlanks_append h (show isBlank '\x7b' = false by decide)]
    rfl
  | cons field fields =>
    obtain ⟨name, value⟩ := field
    rw [write.eq_10] at enough ⊢
    simp only [List.length_append, List.length_cons] at enough
    obtain ⟨fuel, rfl⟩ := Nat.exists_eq_add_one.2 (show 0 < fuel by omega)
    have read : readFields fuel depth [] (quote name.toList ++ ':' :: (layout.afterColon ++
        (write layout (level + 1) value ++ (writeFields layout level fields ++ rest)))) =
          .ok (.obj ((name, value) :: fields), rest) :=
      readFields_write airy all .nil (by omega)
    simp only [quote, List.append_assoc, List.cons_append, List.nil_append] at read ⊢
    rw [readValue_fields h (airy.newline (level + 1))]
    exact read

end

/-- Every plain value is read back. -/
lemma Plain.recovers {layout : Layout} {depth value} (plain : Plain depth value)
    (airy : layout.Airy) : Recovers layout depth value := by
  induction plain with
  | null =>
    refine .atom (fun level => ⟨_, _, write.eq_1 layout level, by decide⟩) fun level rest _ => ?_
    rw [write.eq_1]
    exact readWord_append .null ['u', 'l', 'l'] rest
  | @bool _ b =>
    cases b with
    | true =>
      refine .atom (fun level => ⟨_, _, write.eq_2 layout level, by decide⟩) fun level rest _ => ?_
      rw [write.eq_2]
      exact readWord_append (.bool true) ['r', 'u', 'e'] rest
    | false =>
      refine .atom (fun level => ⟨_, _, write.eq_3 layout level, by decide⟩) fun level rest _ => ?_
      rw [write.eq_3]
      exact readWord_append (.bool false) ['a', 'l', 's', 'e'] rest
  | @int _ n range =>
    refine .atom (fun level => ?_) fun level rest ends => ?_
    · obtain ⟨c, tail, text, head⟩ := writeInt_head n
      exact ⟨c, tail, (write.eq_4 layout level n).trans text, isBlank_numeral head,
        ne_of_numeral head (by decide) (by decide), ne_of_numeral head (by decide) (by decide)⟩
    · rw [write.eq_4]
      exact readAtom_writeInt range ends
  | @str _ s =>
    refine .atom (fun level => ⟨_, _, write.eq_6 layout level s, by decide⟩) fun level rest _ => ?_
    rw [write.eq_6]
    exact readAtom_quote s rest
  | arr plain ih => exact .arr airy plain ih
  | obj _ ih => exact .obj airy ih

section

variable {layout : Layout} {value : Json}

/-- A plain value is read back from the text that consists of its written form. -/
lemma readOne_write (plain : Plain maxDepth value) (airy : layout.Airy) :
    readOne (write layout 0 value) = .ok (value, []) := by
  have read := plain.recovers airy 0 (2 * (write layout 0 value).length + 2) [] [] .nil (by omega)
    .nil
  rw [List.nil_append, List.append_nil] at read
  exact read

/-- A value that was written is read back, in every layout with blanks. -/
lemma parse_write (plain : Plain maxDepth value) (airy : layout.Airy) :
    parse (String.ofList (write layout 0 value)) = .ok value := by
  unfold parse
  rw [String.toList_ofList, readOne_write plain airy]
  rfl

end

end InfoFlow.Json
