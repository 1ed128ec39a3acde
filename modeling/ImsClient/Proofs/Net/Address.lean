import ImsClient.Net.Address
import ImsClient.Proofs.Text.Numerals

/-!
# The text of an address is the address

Every address of version 4 or 6 is read back from its canonical text, in whichever of its
shapes that text comes: a dotted quad, groups between colons, groups around a `::`, or a quad
mapped into version 6. So two texts of addresses denote the same host exactly if the addresses
are the same.
-/

namespace ImsClient

namespace Text

/-- The pieces between separators are those that were put together, if no separator is in them. -/
theorem splitAt_intercalate {separator : Char} {pieces : List (List Char)} (hne : pieces ≠ [])
    (hpieces : ∀ piece ∈ pieces, separator ∉ piece) :
    splitAt separator (List.intercalate [separator] pieces) = pieces := by
  have hlast (piece : List Char) (h : separator ∉ piece) : splitAt separator piece = [piece] := by
    induction piece with
    | nil => rfl
    | cons c piece ih =>
      rw [List.mem_cons, not_or] at h
      obtain ⟨hc, hpiece⟩ := h
      simp [splitAt, Ne.symm hc, ih hpiece]
  have hnext (piece rest : List Char) (h : separator ∉ piece) :
      splitAt separator (piece ++ separator :: rest) = piece :: splitAt separator rest := by
    induction piece with
    | nil => simp [splitAt]
    | cons c piece ih =>
      rw [List.mem_cons, not_or] at h
      obtain ⟨hc, hpiece⟩ := h
      simp [splitAt, Ne.symm hc, ih hpiece]
  induction pieces with
  | nil => exact absurd rfl hne
  | cons piece pieces ih =>
    obtain ⟨hpiece, hrest⟩ := List.forall_mem_cons.mp hpieces
    cases pieces with
    | nil => simpa using hlast piece hpiece
    | cons next pieces =>
      rw [List.intercalate_cons_cons, List.append_assoc, List.singleton_append,
        hnext piece _ hpiece, ih (by simp) hrest]

/-- A character that is no separator stands in one of the pieces. -/
theorem exists_mem_splitAt {separator c : Char} {text : List Char} (hc : c ∈ text)
    (hne : c ≠ separator) : ∃ piece ∈ splitAt separator text, c ∈ piece := by
  induction text with
  | nil => cases hc
  | cons first rest ih =>
    by_cases hfirst : first = separator
    · have hrest : c ∈ rest := by
        rcases List.mem_cons.mp hc with rfl | hrest
        · exact absurd hfirst hne
        · exact hrest
      obtain ⟨piece, hpiece, hmem⟩ := ih hrest
      exact ⟨piece, by simp [splitAt, hfirst, hpiece], hmem⟩
    · obtain ⟨piece, pieces, hsplit⟩ := List.exists_cons_of_ne_nil (splitAt_ne_nil separator rest)
      rw [splitAt, if_neg hfirst, hsplit]
      rcases List.mem_cons.mp hc with rfl | hrest
      · exact ⟨c :: piece, by simp, by simp⟩
      · obtain ⟨found, hfound, hmem⟩ := ih hrest
        rw [hsplit] at hfound
        rcases List.mem_cons.mp hfound with rfl | hlater
        · exact ⟨first :: found, by simp, by simp [hmem]⟩
        · exact ⟨found, by simp [hlater], hmem⟩

end Text

namespace IpAddress

/-- An address has four octets or eight groups. -/
def IsWhole : IpAddress → Prop
  | v4 octets => octets.length = 4
  | v6 groups => groups.length = 8

instance : DecidablePred IsWhole
  | v4 octets => inferInstanceAs (Decidable (octets.length = 4))
  | v6 groups => inferInstanceAs (Decidable (groups.length = 8))

/-! ### Dotted quads -/

/-- An octet is read back from its decimal digits. -/
theorem octet?_toDigits (octet : UInt8) : octet? (Nat.toDigits 10 octet.toNat) = some octet := by
  have hall : ∀ n < 256, octet? (Nat.toDigits 10 n) = some (UInt8.ofNat n) := by decide +kernel
  rw [hall octet.toNat octet.toNat_lt, UInt8.ofNat_toNat]

/-- The characters of a dotted quad. -/
theorem toList_quadText (octets : List UInt8) :
    (quadText octets).toList =
      List.intercalate ['.'] (octets.map fun octet => Nat.toDigits 10 octet.toNat) := by
  simp [quadText, String.toList_intercalate, Function.comp_def]

/-- Four octets are read back from their dotted quad. -/
theorem dottedQuad?_quadText {octets : List UInt8} (h : octets.length = 4) :
    dottedQuad? (quadText octets).toList = some octets := by
  have hpieces : ∀ piece ∈ octets.map fun octet => Nat.toDigits 10 octet.toNat, '.' ∉ piece := by
    rintro piece hpiece hdot
    obtain ⟨octet, -, rfl⟩ := List.mem_map.mp hpiece
    have hdigit := List.all_eq_true.mp (Text.all_isDigit_toDigits octet.toNat) '.' hdot
    exact absurd hdigit (by decide)
  have hread (octets : List UInt8) :
      (octets.map fun octet => Nat.toDigits 10 octet.toNat).mapM octet? = some octets := by
    induction octets with
    | nil => rfl
    | cons octet octets ih => simp [octet?_toDigits, ih]
  have hne : octets.map (fun octet => Nat.toDigits 10 octet.toNat) ≠ [] := by
    intro hnil
    simp [List.map_eq_nil_iff.mp hnil] at h
  simp only [dottedQuad?, toList_quadText, Text.splitAt_intercalate hne hpieces, List.length_map, h,
    if_true, hread]

/-- The dotted quad of four octets is longer than a group can be. -/
theorem length_quadText {octets : List UInt8} (h : octets.length = 4) :
    4 < (quadText octets).toList.length := by
  have hpos (octet : UInt8) : 0 < (Nat.toDigits 10 octet.toNat).length := Nat.length_toDigits_pos
  rw [toList_quadText]
  match octets, h with
  | [a, b, c, d], _ =>
    have ha := hpos a
    have hb := hpos b
    have hc := hpos c
    have hd := hpos d
    simp only [List.map_cons, List.map_nil, List.intercalate, List.intersperse,
      List.flatten_cons, List.flatten_nil, List.length_append, List.length_cons, List.length_nil]
    omega

/-- A text with a colon is no dotted quad. -/
theorem dottedQuad?_of_colon {text : List Char} (h : ':' ∈ text) : dottedQuad? text = none := by
  have hpiece {piece : List Char} (hmem : ':' ∈ piece) : octet? piece = none := by
    have hall : piece.all Char.isDigit = false :=
      List.all_eq_false.mpr ⟨':', hmem, by decide⟩
    cases piece with
    | nil => cases hmem
    | cons first rest => simp [octet?, hall]
  obtain ⟨piece, hsplit, hmem⟩ :=
    Text.exists_mem_splitAt h (show ':' ≠ '.' by decide)
  have hmap : ∀ pieces : List (List Char), piece ∈ pieces → pieces.mapM octet? = none := by
    intro pieces hpieces
    induction pieces with
    | nil => cases hpieces
    | cons first rest ih =>
      rcases List.mem_cons.mp hpieces with rfl | hrest
      · simp [hpiece hmem]
      · simp [ih hrest]
  simp [dottedQuad?, hmap _ hsplit]

/-! ### Groups between colons -/

/-- The texts of groups. -/
def groupTexts (groups : List UInt16) : List (List Char) :=
  groups.map fun group => Nat.toDigits 16 group.toNat

/-- The characters of groups between colons. -/
theorem toList_groupsText (groups : List UInt16) :
    (groupsText groups).toList = List.intercalate [':'] (groupTexts groups) := by
  simp [groupsText, groupTexts, String.toList_intercalate, Function.comp_def]

/-- A group is read back from its hexadecimal digits. -/
theorem group?_toDigits (group : UInt16) : group? (Nat.toDigits 16 group.toNat) = some group := by
  have hlength : (Nat.toDigits 16 group.toNat).length ≤ 4 :=
    (Nat.length_toDigits_le_iff (by decide) (by decide)).mpr group.toNat_lt
  simp [group?, Nat.not_lt.mpr hlength, Text.hexadecimal?_toDigits]

/-- The text of a group is not empty and has no colon. -/
theorem colon_not_mem_groupTexts {groups : List UInt16} {piece : List Char}
    (h : piece ∈ groupTexts groups) : piece ≠ [] ∧ ':' ∉ piece := by
  obtain ⟨group, -, rfl⟩ := List.mem_map.mp h
  refine ⟨Nat.toDigits_ne_nil, fun hcolon => ?_⟩
  exact absurd (Text.isLowerHex_of_mem_toDigits hcolon) (by decide)

/-- Groups are read back from their texts. -/
theorem pieceGroups?_groupTexts (allowQuad : Bool) (groups : List UInt16) :
    pieceGroups? allowQuad (groupTexts groups) = some groups := by
  induction groups with
  | nil => rfl
  | cons group groups ih =>
    cases groups with
    | nil => simp [groupTexts, pieceGroups?, group?_toDigits]
    | cons next groups =>
      simp only [groupTexts, List.map_cons] at ih ⊢
      simp [pieceGroups?, group?_toDigits, ih]

/-- Groups are read back from their text between colons. -/
theorem groups?_groupsText (allowQuad : Bool) (groups : List UInt16) :
    groups? allowQuad (groupsText groups).toList = some groups := by
  rw [toList_groupsText]
  cases groups with
  | nil => rfl
  | cons group groups =>
    have hsplit : Text.splitAt ':' (List.intercalate [':'] (groupTexts (group :: groups))) =
        groupTexts (group :: groups) :=
      Text.splitAt_intercalate (by simp [groupTexts]) fun _ h => (colon_not_mem_groupTexts h).2
    have hne : (List.intercalate [':'] (groupTexts (group :: groups))).isEmpty = false := by
      cases groups <;> simp [groupTexts, List.intercalate]
    simp only [groups?, hne, hsplit, pieceGroups?_groupTexts, Bool.false_eq_true, if_false]

/-! ### Groups around a gap -/

/-- A character goes before the gap behind it, unless it is the gap that starts here. -/
theorem splitGap?_cons {c : Char} {rest : List Char} (h : c = ':' → rest.head? ≠ some ':') :
    splitGap? (c :: rest) =
      (splitGap? rest).map fun (before, after) => (c :: before, after) := by
  rw [splitGap?.eq_def]
  split
  · next heq =>
    cases heq
    exact absurd rfl (h rfl)
  · next heq =>
    cases heq
    rfl
  · next heq => cases heq

/-- Groups between colons stand before the first gap. -/
theorem splitGap?_groupsText_append (groups : List UInt16) (rest : List Char) :
    splitGap? ((groupsText groups).toList ++ rest) =
      (splitGap? rest).map fun (before, after) =>
        ((groupsText groups).toList ++ before, after) := by
  have hpiece (piece rest : List Char) (h : ':' ∉ piece) : splitGap? (piece ++ rest) =
      (splitGap? rest).map fun (before, after) => (piece ++ before, after) := by
    induction piece with
    | nil => simp
    | cons c piece ih =>
      rw [List.mem_cons, not_or] at h
      rw [List.cons_append, splitGap?_cons (fun hc => absurd hc.symm h.1), ih h.2]
      simp [Function.comp_def]
  rw [toList_groupsText]
  have hpieces : ∀ piece ∈ groupTexts groups, piece ≠ [] ∧ ':' ∉ piece :=
    fun _ h => colon_not_mem_groupTexts h
  generalize groupTexts groups = pieces at hpieces
  induction pieces with
  | nil => simp
  | cons piece pieces ih =>
    obtain ⟨⟨-, hfirst⟩, hrest⟩ := List.forall_mem_cons.mp hpieces
    cases pieces with
    | nil => simpa using hpiece piece rest hfirst
    | cons next pieces =>
      obtain ⟨⟨hne, hnext⟩, -⟩ := List.forall_mem_cons.mp hrest
      -- The colon between two pieces starts no gap, since a piece follows.
      have hhead : (List.intercalate [':'] (next :: pieces) ++ rest).head? ≠ some ':' := by
        cases next with
        | nil => exact absurd rfl hne
        | cons c next =>
          rw [List.mem_cons, not_or] at hnext
          cases pieces <;> simpa [List.intercalate] using Ne.symm hnext.1
      rw [List.intercalate_cons_cons, List.append_assoc, List.append_assoc, hpiece piece _ hfirst,
        List.singleton_append, splitGap?_cons fun _ => hhead, ih hrest]
      simp [Function.comp_def]

/-- The longest run of zero groups stands where it is said to. -/
theorem longestZeroRun_spec (start : Nat) (groups : List UInt16) :
    ∃ before after,
      groups = before ++ List.replicate (longestZeroRun start groups).2 0 ++ after ∧
        (longestZeroRun start groups).1 = start + before.length := by
  induction groups generalizing start with
  | nil => exact ⟨[], [], rfl, rfl⟩
  | cons group groups ih =>
    have hrun : (group :: groups).takeWhile (· == 0) =
        List.replicate (zeroRun (group :: groups)) 0 :=
      List.eq_replicate_iff.mpr ⟨rfl, fun zero hzero => by
        simpa using List.mem_takeWhile_imp hzero⟩
    obtain ⟨before, after, hsplit, hstart⟩ := ih (start + 1)
    by_cases hhere : (longestZeroRun (start + 1) groups).2 ≤ zeroRun (group :: groups)
    · refine ⟨[], (group :: groups).dropWhile (· == 0), ?_, ?_⟩
      · simp only [longestZeroRun, hhere, if_true, List.nil_append]
        rw [← hrun, List.takeWhile_append_dropWhile]
      · simp only [longestZeroRun, hhere, if_true]
        rfl
    · refine ⟨group :: before, after, ?_, ?_⟩
      · simp only [longestZeroRun, hhere, if_false, List.cons_append]
        rw [← hsplit]
      · simp only [longestZeroRun, hhere, if_false, hstart, List.length_cons]
        omega

/-- Groups are read back from their text with a gap in place of zero groups. -/
theorem hexGroups?_gap {before after : List UInt16} {zeros : Nat} (hzeros : 1 < zeros)
    (hlength : (before ++ List.replicate zeros 0 ++ after).length = 8) :
    hexGroups? ((groupsText before).toList ++ ':' :: ':' :: (groupsText after).toList) =
      some (before ++ List.replicate zeros 0 ++ after) := by
  have hsplit : splitGap? ((groupsText before).toList ++ ':' :: ':' :: (groupsText after).toList) =
      some ((groupsText before).toList, (groupsText after).toList) := by
    rw [splitGap?_groupsText_append]
    simp [splitGap?]
  simp only [List.length_append, List.length_replicate] at hlength
  have hfew : before.length + after.length ≤ 7 := by omega
  have hcount : 8 - before.length - after.length = zeros := by omega
  simp only [hexGroups?, hsplit, groups?_groupsText, Option.bind_eq_bind, Option.bind_some, hfew,
    if_true, hcount]
  rfl

/-- Eight groups are read back from their text between colons. -/
theorem hexGroups?_groupsText {groups : List UInt16} (h : groups.length = 8) :
    hexGroups? (groupsText groups).toList = some groups := by
  have hsplit : splitGap? (groupsText groups).toList = none := by
    have hnone := splitGap?_groupsText_append groups []
    rw [List.append_nil] at hnone
    exact hnone
  simp [hexGroups?, hsplit, groups?_groupsText, h]

/-- Two groups are the octets that they hold. -/
theorem quadGroups_groupOctets (high low : UInt16) :
    quadGroups (groupOctets [high, low]) = [high, low] := by
  have hgroup (group : UInt16) :
      UInt16.ofNat (256 * (UInt8.ofNat (group.toNat / 256)).toNat +
        (UInt8.ofNat (group.toNat % 256)).toNat) = group := by
    have hlt := group.toNat_lt
    have hsize : UInt8.size = 256 := rfl
    have hhigh : (UInt8.ofNat (group.toNat / 256)).toNat = group.toNat / 256 :=
      UInt8.toNat_ofNat_of_lt' (by omega)
    have hlow : (UInt8.ofNat (group.toNat % 256)).toNat = group.toNat % 256 :=
      UInt8.toNat_ofNat_of_lt' (by omega)
    rw [hhigh, hlow, Nat.div_add_mod, UInt16.ofNat_toNat]
  simp only [groupOctets, List.flatMap_cons, List.flatMap_nil, List.cons_append, List.nil_append,
    quadGroups, hgroup]

/-- Groups that hold an address of version 4 are read back from its dotted quad. -/
theorem hexGroups?_mapped (high low : UInt16) :
    hexGroups? ("::ffff:" ++ quadText (groupOctets [high, low])).toList =
      some ([0, 0, 0, 0, 0, 0xFFFF] ++ [high, low]) := by
  have hoctets : (groupOctets [high, low]).length = 4 := rfl
  generalize hquad : groupOctets [high, low] = octets at hoctets
  have hread := dottedQuad?_quadText hoctets
  have hcolon : ':' ∉ (quadText octets).toList := by
    intro hmem
    rw [dottedQuad?_of_colon hmem] at hread
    cases hread
  have hgroup : group? (quadText octets).toList = none := by
    have hlong := length_quadText hoctets
    simp [group?, hlong]
  have hpieces : Text.splitAt ':' ("ffff".toList ++ ':' :: (quadText octets).toList) =
      ["ffff".toList, (quadText octets).toList] := by
    have hsplit : Text.splitAt ':'
        (List.intercalate [':'] ["ffff".toList, (quadText octets).toList]) =
        ["ffff".toList, (quadText octets).toList] :=
      Text.splitAt_intercalate (by simp) (by simpa using hcolon)
    simpa [List.intercalate] using hsplit
  have htail : groups? true ("ffff".toList ++ ':' :: (quadText octets).toList) =
      some [0xFFFF, high, low] := by
    have hffff : group? "ffff".toList = some 0xFFFF := by decide +kernel
    have hquads : quadGroups octets = [high, low] := hquad ▸ quadGroups_groupOctets high low
    simp only [groups?, hpieces, pieceGroups?, hffff, hgroup, hread, if_true, Option.map_some,
      hquads]
    rfl
  have htext : ("::ffff:" ++ quadText octets).toList =
      ':' :: ':' :: ("ffff".toList ++ ':' :: (quadText octets).toList) := by
    simp
  simp only [htext, hexGroups?, splitGap?, htail]
  rfl

/-! ### All addresses -/

/-- Every address is read back from its text. -/
theorem ofText?_text {ip : IpAddress} (h : ip.IsWhole) : ofText? ip.text = some ip := by
  cases ip with
  | v4 octets => simp [ofText?, ofChars?, text, dottedQuad?_quadText h]
  | v6 groups =>
    have hgroups : groups.length = 8 := h
    suffices hread : ':' ∈ (v6 groups).text.toList ∧
        hexGroups? (v6 groups).text.toList = some groups by
      simp [ofText?, ofChars?, dottedQuad?_of_colon hread.1, hread.2]
    by_cases hmapped : groups.take 6 = [0, 0, 0, 0, 0, 0xFFFF]
    · obtain ⟨high, low, hlast⟩ : ∃ high low, groups.drop 6 = [high, low] := by
        match groups, hgroups with
        | [_, _, _, _, _, _, high, low], _ => exact ⟨high, low, rfl⟩
      have htext : (v6 groups).text = "::ffff:" ++ quadText (groupOctets [high, low]) := by
        simp [text, hmapped, hlast]
      rw [htext, hexGroups?_mapped, ← hlast, ← hmapped, List.take_append_drop]
      exact ⟨by simp, rfl⟩
    · obtain ⟨before, after, hsplit, hstart⟩ := longestZeroRun_spec 0 groups
      generalize hrun : longestZeroRun 0 groups = run at hsplit hstart
      obtain ⟨start, zeros⟩ := run
      obtain rfl : start = before.length := by simpa using hstart
      by_cases hzeros : 1 < zeros
      · have htext : (v6 groups).text = groupsText before ++ "::" ++ groupsText after := by
          simp only [text, hmapped, if_false, hrun, hzeros, if_true]
          rw [hsplit]
          simp
        rw [htext, hsplit]
        refine ⟨by simp, ?_⟩
        simpa using hexGroups?_gap hzeros (hsplit ▸ hgroups)
      · have htext : (v6 groups).text = groupsText groups := by
          simp only [text, hmapped, if_false, hrun, hzeros]
        rw [htext, hexGroups?_groupsText hgroups]
        refine ⟨?_, rfl⟩
        obtain ⟨first, second, rest, rfl⟩ :
            ∃ first second rest, groups = first :: second :: rest := by
          match groups, hgroups with
          | first :: second :: rest, _ => exact ⟨first, second, rest, rfl⟩
        simp [toList_groupsText, groupTexts, List.intercalate]

/-- Two texts of addresses denote the same host exactly if the addresses are the same. -/
theorem sameHost_text_iff {a b : IpAddress} (ha : a.IsWhole) (hb : b.IsWhole) :
    sameHost a.text b.text = true ↔ a = b := by
  simp [sameHost, ofText?_text ha, ofText?_text hb]

end IpAddress

end ImsClient
