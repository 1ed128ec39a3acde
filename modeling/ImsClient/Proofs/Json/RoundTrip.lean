import ImsClient.Proofs.Json.Scalars

/-!
# Documents read back

A document that is written as text is read back from it: a list or an object from the
texts of what is in it, one after another. The number of characters bounds the fuel that
this takes.
-/

namespace ImsClient.Json

/-- A document whose numbers are numbers. -/
inductive IsProper : Json → Prop where
  | null : IsProper null
  | bool (value : Bool) : IsProper (bool value)
  | integer (value : Int) : IsProper (integer value)
  | decimal {text : String} (h : IsNumeral (decimal text)) : IsProper (decimal text)
  | string (text : Option String) : IsProper (string text)
  | array {items : List Json} (h : ∀ item ∈ items, IsProper item) : IsProper (array items)
  | object {members : List (Option String × Json)} (h : ∀ member ∈ members, IsProper member.2) :
      IsProper (object members)

variable {rest : List Char} {doc item value : Json} {items : List Json} {name : Option String}
  {members : List (Option String × Json)} {text more before : List Char} {fuel : Nat}

theorem skipSpace_cons {c : Char} (hc : isSpace c = false) (rest : List Char) :
    skipSpace (c :: rest) = c :: rest := by
  simp [skipSpace, hc]

/-- A value that starts with no space is read by what it starts with. -/
theorem readValue?_scalar {c : Char} (hspace : isSpace c = false) (hstring : c ≠ '"')
    (harray : c ≠ '[') (hobject : c ≠ '\x7b') (rest : List Char) (fuel : Nat) :
    readValue? (fuel + 1) (c :: rest) = readScalar? (c :: rest) := by
  rw [readValue?, skipSpace_cons hspace]
  simp [hstring, harray, hobject]

/-- The last item of a list is read with the bracket after it. -/
theorem readItems?_last (h : readValue? fuel text = some (item, ']' :: rest)) :
    readItems? (fuel + 1) text = some ([item], rest) := by
  simp [readItems?, h, skipSpace_cons, isSpace]

/-- Another one is read with the comma after it. -/
theorem readItems?_more (h : readValue? fuel text = some (item, ',' :: more))
    (hmore : readItems? fuel more = some (items, rest)) :
    readItems? (fuel + 1) text = some (item :: items, rest) := by
  simp [readItems?, h, hmore, skipSpace_cons, isSpace]

/-- The last member of an object is read with the brace after it. -/
theorem readMembers?_last (h : readValue? fuel text = some (value, '\x7d' :: rest)) :
    readMembers? (fuel + 1) (stringChars name ++ ':' :: text) = some ([(name, value)], rest) := by
  obtain ⟨inside, hinside, hname⟩ := readString?_stringChars name (':' :: text)
  simp [readMembers?, hinside, hname, h, skipSpace_cons, isSpace]

/-- Another one is read with the comma after it. -/
theorem readMembers?_more (h : readValue? fuel text = some (value, ',' :: more))
    (hmore : readMembers? fuel more = some (members, rest)) :
    readMembers? (fuel + 1) (stringChars name ++ ':' :: text) =
      some ((name, value) :: members, rest) := by
  obtain ⟨inside, hinside, hname⟩ := readString?_stringChars name (':' :: text)
  simp [readMembers?, hinside, hname, h, hmore, skipSpace_cons, isSpace]

/-- A text that starts as a value can: with no space, and not by closing a list. -/
def Opens (text : List Char) : Prop :=
  ∃ c rest, text = c :: rest ∧ isSpace c = false ∧ c ≠ ']'

theorem Opens.append (h : Opens text) (more : List Char) : Opens (text ++ more) := by
  obtain ⟨c, rest, rfl, hc⟩ := h
  exact ⟨c, rest ++ more, rfl, hc⟩

/-- A list that is not empty is read with its brackets. -/
theorem readValue?_array (htext : Opens text) (h : readItems? fuel text = some (items, rest)) :
    readValue? (fuel + 1) ('[' :: text) = some (array items, rest) := by
  obtain ⟨c, inside, rfl, hspace, hclose⟩ := htext
  simp only [readValue?, skipSpace_cons (show isSpace '[' = false by decide)]
  rw [skipSpace_cons hspace]
  simp [hclose, h]

/-- An object that is not empty is read with its braces. -/
theorem readValue?_object
    (h : readMembers? fuel (stringChars name ++ text) = some (members, rest)) :
    readValue? (fuel + 1) ('\x7b' :: (stringChars name ++ text)) = some (object members, rest) := by
  obtain ⟨inside, hinside, -⟩ := readString?_stringChars name text
  rw [hinside] at h ⊢
  simp [readValue?, skipSpace_cons, isSpace, h]

/-- A text with texts after it is a part of all of them. -/
theorem exists_joinComma_cons (first : List Char) (others : List (List Char)) :
    ∃ tail, joinComma (first :: others) = first ++ tail := by
  cases others with
  | nil => exact ⟨[], (List.append_nil first).symm⟩
  | cons next others => exact ⟨_, rfl⟩

/-- What starts a number is no space, and it neither closes a list nor starts a value of another
kind. -/
theorem ne_of_startsNumber {c : Char} (hc : c = '-' ∨ c.isDigit = true) :
    isSpace c = false ∧ c ≠ ']' ∧ c ≠ '"' ∧ c ≠ '[' ∧ c ≠ '\x7b' := by
  rcases hc with rfl | hc
  · decide
  · have hne {other : Char} : other.isDigit = false → c ≠ other := ne_of_isDigit hc
    refine ⟨?_, hne (by decide), hne (by decide), hne (by decide), hne (by decide)⟩
    simp only [isSpace, Bool.or_eq_false_iff, decide_eq_false_iff_not]
    exact ⟨⟨⟨hne (by decide), hne (by decide)⟩, hne (by decide)⟩, hne (by decide)⟩

/-- A number opens. -/
theorem IsNumeral.opens (h : IsNumeral doc) : Opens doc.chars := by
  obtain ⟨negative, whole, fraction, exponent, hnumber, -, hchars⟩ := h
  obtain ⟨c, others, hcons, hc⟩ := hnumber.exists_cons negative
  exact ⟨c, others, hchars.trans hcons, (ne_of_startsNumber hc).1, (ne_of_startsNumber hc).2.1⟩

/-- It is read back with what comes after it. -/
theorem IsNumeral.readValue?_chars (h : IsNumeral doc) (hrest : Ends rest) (fuel : Nat) :
    readValue? (fuel + 1) (doc.chars ++ rest) = some (doc, rest) := by
  obtain ⟨negative, whole, fraction, exponent, hnumber, rfl, hchars⟩ := h
  have hread := hnumber.readScalar?_append negative hrest
  obtain ⟨c, others, hcons, hc⟩ := hnumber.exists_cons negative
  obtain ⟨hspace, -, hstring, harray, hobject⟩ := ne_of_startsNumber hc
  rw [hchars, ← hread, hcons]
  exact readValue?_scalar hspace hstring harray hobject (others ++ rest) fuel

/-- So does every document. -/
theorem IsProper.opens (h : IsProper doc) : Opens doc.chars := by
  cases h with
  | null => exact ⟨'n', _, rfl, by decide, by decide⟩
  | bool value => cases value <;> exact ⟨_, _, rfl, by decide, by decide⟩
  | integer value => exact (isNumeral_integer value).opens
  | decimal h => exact h.opens
  | string text =>
    obtain ⟨inside, hinside, -⟩ := readString?_stringChars text []
    rw [List.append_nil] at hinside
    exact ⟨'"', inside, hinside, by decide, by decide⟩
  | array h => exact ⟨'[', _, rfl, by decide, by decide⟩
  | object h => exact ⟨'\x7b', _, rfl, by decide, by decide⟩

/-- The text of a list, with what comes after it. -/
theorem chars_array_append (items : List Json) (rest : List Char) :
    (array items).chars ++ rest = '[' :: (joinComma (itemChars items) ++ ']' :: rest) := by
  rw [chars, List.append_assoc]
  rfl

/-- The text of an object, with what comes after it. -/
theorem chars_object_append (members : List (Option String × Json)) (rest : List Char) :
    (object members).chars ++ rest =
      '\x7b' :: (joinComma (memberChars members) ++ '\x7d' :: rest) := by
  rw [chars, List.append_assoc]
  rfl

/-- The items of a list open if there are any. -/
theorem opens_joinComma (h : item.IsProper) (items : List Json) :
    Opens (joinComma (itemChars (item :: items))) := by
  obtain ⟨tail, htail⟩ := exists_joinComma_cons item.chars (itemChars items)
  rw [itemChars, htail]
  exact h.opens.append tail

mutual

/-- A proper document is read back with what comes after it. -/
theorem readValue?_chars : ∀ (doc : Json), doc.IsProper → ∀ (fuel : Nat) (rest : List Char),
    2 * doc.chars.length ≤ fuel → Ends rest →
      readValue? (fuel + 1) (doc.chars ++ rest) = some (doc, rest)
  | .null, _, fuel, rest, _, _ =>
    readValue?_scalar (by decide) (by decide) (by decide) (by decide) _ fuel
  | .bool true, _, fuel, rest, _, _ =>
    readValue?_scalar (by decide) (by decide) (by decide) (by decide) _ fuel
  | .bool false, _, fuel, rest, _, _ =>
    readValue?_scalar (by decide) (by decide) (by decide) (by decide) _ fuel
  | .integer value, _, fuel, rest, _, hrest =>
    (isNumeral_integer value).readValue?_chars hrest fuel
  | .decimal text, .decimal h, fuel, rest, _, hrest => h.readValue?_chars hrest fuel
  | .string text, _, fuel, rest, _, _ => by
    obtain ⟨inside, hinside, hread⟩ := readString?_stringChars text rest
    rw [chars, hinside]
    simp [readValue?, skipSpace_cons, isSpace, hread]
  | .array [], _, fuel, rest, _, _ => by
    simp [chars_array_append, itemChars, joinComma, readValue?, skipSpace_cons, isSpace]
  | .array (item :: items), .array h, 0, rest, hfuel, _ => by
    simp [chars] at hfuel
  | .array (item :: items), .array h, fuel + 1, rest, hfuel, _ => by
    have hitems := readItems?_joinComma (item :: items) (List.cons_ne_nil item items) h fuel rest
      (by simp only [chars, List.length_append, List.length_cons] at hfuel; omega)
    rw [chars_array_append]
    exact readValue?_array ((opens_joinComma (h item List.mem_cons_self) items).append _) hitems
  | .object [], _, fuel, rest, _, _ => by
    simp [chars_object_append, memberChars, joinComma, readValue?, skipSpace_cons, isSpace]
  | .object (member :: members), .object h, 0, rest, hfuel, _ => by
    simp [chars] at hfuel
  | .object ((name, value) :: members), .object h, fuel + 1, rest, hfuel, _ => by
    have hmembers := readMembers?_joinComma ((name, value) :: members)
      (List.cons_ne_nil (name, value) members) h fuel rest
      (by simp only [chars, List.length_append, List.length_cons] at hfuel; omega)
    obtain ⟨tail, htail⟩ :=
      exists_joinComma_cons (stringChars name ++ ':' :: value.chars) (memberChars members)
    rw [memberChars, htail, List.append_assoc, List.append_assoc] at hmembers
    rw [chars_object_append, memberChars, htail, List.append_assoc, List.append_assoc]
    exact readValue?_object hmembers

/-- So are the items of a list with its bracket. -/
theorem readItems?_joinComma : ∀ (items : List Json), items ≠ [] → (∀ item ∈ items, item.IsProper) →
    ∀ (fuel : Nat) (rest : List Char), 2 * (joinComma (itemChars items)).length < fuel →
      readItems? (fuel + 1) (joinComma (itemChars items) ++ ']' :: rest) = some (items, rest)
  | [], hne, _, _, _, _ => absurd rfl hne
  | [item], _, h, fuel + 1, rest, hfuel =>
    readItems?_last (readValue?_chars item (h item List.mem_cons_self) fuel (']' :: rest)
      (Nat.le_of_lt_succ hfuel) (by simp [Ends]))
  | item :: next :: items, _, h, fuel + 1, rest, hfuel => by
    have hjoined : joinComma (itemChars (item :: next :: items)) =
        item.chars ++ ',' :: joinComma (itemChars (next :: items)) := rfl
    rw [hjoined, List.length_append, List.length_cons] at hfuel
    have hitem := readValue?_chars item (h item List.mem_cons_self) fuel
      (',' :: (joinComma (itemChars (next :: items)) ++ ']' :: rest)) (by omega) (by simp [Ends])
    have hitems := readItems?_joinComma (next :: items) (List.cons_ne_nil next items)
      (fun other hother => h other (List.mem_cons_of_mem item hother)) fuel rest (by omega)
    rw [hjoined, List.append_assoc]
    exact readItems?_more hitem hitems

/-- So are the members of an object with its brace. -/
theorem readMembers?_joinComma : ∀ (members : List (Option String × Json)), members ≠ [] →
    (∀ member ∈ members, member.2.IsProper) → ∀ (fuel : Nat) (rest : List Char),
      2 * (joinComma (memberChars members)).length < fuel →
        readMembers? (fuel + 1) (joinComma (memberChars members) ++ '\x7d' :: rest) =
          some (members, rest)
  | [], hne, _, _, _, _ => absurd rfl hne
  | [(name, value)], _, h, fuel + 1, rest, hfuel => by
    have hjoined : joinComma (memberChars [(name, value)]) =
        stringChars name ++ ':' :: value.chars := rfl
    rw [hjoined, List.length_append, List.length_cons] at hfuel
    have hvalue := readValue?_chars value (h _ List.mem_cons_self) fuel ('\x7d' :: rest) (by omega)
      (by simp [Ends])
    rw [hjoined, List.append_assoc]
    exact readMembers?_last hvalue
  | (name, value) :: next :: members, _, h, fuel + 1, rest, hfuel => by
    have hjoined : joinComma (memberChars ((name, value) :: next :: members)) =
        (stringChars name ++ ':' :: value.chars) ++
          ',' :: joinComma (memberChars (next :: members)) := rfl
    rw [hjoined, List.length_append, List.length_append, List.length_cons,
      List.length_cons] at hfuel
    have hvalue := readValue?_chars value (h _ List.mem_cons_self) fuel
      (',' :: (joinComma (memberChars (next :: members)) ++ '\x7d' :: rest)) (by omega)
      (by simp [Ends])
    have hmembers := readMembers?_joinComma (next :: members) (List.cons_ne_nil next members)
      (fun other hother => h other (List.mem_cons_of_mem _ hother)) fuel rest (by omega)
    rw [hjoined, List.append_assoc, List.append_assoc]
    exact readMembers?_more hvalue hmembers

end

/-- Space before a value makes no difference. -/
theorem readValue?_append_of_isSpace (hbefore : ∀ c ∈ before, isSpace c = true) (text : List Char)
    (fuel : Nat) : readValue? fuel (before ++ text) = readValue? fuel text := by
  cases fuel with
  | zero => rfl
  | succ fuel =>
    rw [readValue?, readValue?, skipSpace, List.dropWhile_append_of_pos hbefore, skipSpace]

/-- A proper document is read back from its text, with space around it or without. -/
theorem parse?_of_isSpace (h : doc.IsProper) {before after : String}
    (hbefore : ∀ c ∈ before.toList, isSpace c = true)
    (hafter : ∀ c ∈ after.toList, isSpace c = true) :
    parse? (before ++ doc.text ++ after) = some doc := by
  have hends : Ends after.toList := by
    intro c hc
    have hspace := hafter c (List.mem_of_head? hc)
    simp only [isSpace, Bool.or_eq_true, decide_eq_true_eq] at hspace
    rcases hspace with ((rfl | rfl) | rfl) | rfl <;> decide
  have hnone : skipSpace after.toList = [] := List.dropWhile_eq_nil_iff.mpr hafter
  have htext : (before ++ doc.text ++ after).toList =
      before.toList ++ (doc.chars ++ after.toList) := by
    simp [text]
  have hread := readValue?_chars doc h (2 * (before ++ doc.text ++ after).toList.length)
    after.toList (by simp only [htext, List.length_append]; omega) hends
  rw [← readValue?_append_of_isSpace hbefore, ← htext] at hread
  simp only [parse?, hread, hnone, List.isEmpty_nil, if_true]

/-- A proper document is read back from its text. -/
theorem parse?_text (h : doc.IsProper) : parse? doc.text = some doc := by
  have hnone : ∀ c ∈ "".toList, isSpace c = true := by simp
  simpa using parse?_of_isSpace h hnone hnone

end ImsClient.Json
