import ImsClient.Proofs.Text.Quotes
import ImsClient.Sip.Grammar
import ImsClient.Sip.Message

/-!
# A header in place of others

To replace a header is to take out every header whose name is spelled in the same way, and
to look one up is to see every header whose name differs at most in the case of its letters.
The two agree on the names that are known, whose spelling is always the canonical one. They
do not agree on a name of another kind that the message has in another case, since the header
of that spelling stays; and a header that is put in under a short form is not found under it.
-/

namespace ImsClient

namespace Text

/-- What precedes a separator that does not occur in it is split off. -/
theorem splitFirst?_append {separator : Char} {before : List Char} (hbefore : separator ∉ before)
    (after : List Char) :
    splitFirst? separator (before ++ separator :: after) = some (before, after) := by
  induction before with
  | nil => simp [splitFirst?]
  | cons c before ih =>
    have hc : c ≠ separator := fun h => hbefore (h ▸ List.mem_cons_self)
    have hrest : separator ∉ before := fun h => hbefore (List.mem_cons_of_mem c h)
    simp only [List.cons_append, splitFirst?, if_neg hc, ih hrest, Option.map_some]

/-- A blank at the front is trimmed off. -/
theorem trimmed_cons_blank {c : Char} (hc : isBlank c = true) (text : List Char) :
    trimmed (c :: text) = trimmed text := by
  rw [trimmed, trimmed, trimStart, List.dropWhile_cons_of_pos hc]
  rfl

end Text

namespace Sip

namespace HeaderName

/-- The letter that a character stands for in a folded name. -/
def foldChar (c : Char) : Char := if c = '\u212A' then 'k' else c.toLower

/-- A small letter and its capital fold alike. -/
theorem foldChar_toLower (c : Char) : foldChar c.toLower = foldChar c := by
  by_cases hcapital : 'A' ≤ c ∧ c ≤ 'Z'
  · have hletters : ∀ n, n < 26 → foldChar (Char.ofNat (65 + n)).toLower =
        foldChar (Char.ofNat (65 + n)) := by decide
    have hc : c = Char.ofNat (65 + (c.toNat - 65)) := by
      have hlow : 65 ≤ c.toNat := hcapital.1
      rw [Nat.add_sub_cancel' hlow, Char.ofNat_toNat]
    have hhigh : c.toNat ≤ 90 := hcapital.2
    rw [hc]
    exact hletters _ (by omega)
  · have hsame : c.toLower = c := by
      unfold Char.toLower
      exact dif_neg hcapital
    rw [hsame]

/-- Names that are alike fold alike. -/
theorem folded_of_alike {name other : String} (h : Text.alike name other = true) :
    folded name = folded other := by
  have hfolded (name : String) :
      folded name = (name.toList.map Char.toLower).map foldChar := by
    rw [List.map_map]
    exact List.map_congr_left fun c _ => (foldChar_toLower c).symm
  rw [hfolded, hfolded, (Text.alike_iff name other).mp h]

/-- A name is known, or else it is kept as it is written. -/
theorem canonical_cases (name : String) :
    canonical name ∈ known ∨ canonical name = name := by
  have hshort : ∀ entry ∈ shortForms, entry.2 ∈ known := by decide +kernel
  unfold canonical
  split
  · next found hfound => exact .inl (List.mem_of_find?_eq_some hfound)
  · split
    · next found hfound => exact .inl (hshort _ (List.mem_of_find?_eq_some hfound))
    · exact .inr rfl

/-- The known names are canonical. -/
theorem canonical_of_mem_known : ∀ name ∈ known, canonical name = name := by
  decide +kernel

/-- A canonical name stays as it is. -/
theorem canonical_canonical (name : String) : canonical (canonical name) = canonical name := by
  rcases canonical_cases name with hknown | hkept
  · exact canonical_of_mem_known _ hknown
  · rw [hkept, hkept]

/-- Names that are alike have one canonical form, or are kept as they are written. -/
theorem canonical_of_alike {name other : String} (h : Text.alike name other = true) :
    canonical name = canonical other ∨ (canonical name = name ∧ canonical other = other) := by
  unfold canonical
  rw [folded_of_alike h]
  split
  · exact .inl rfl
  · split
    · exact .inl rfl
    · exact .inr ⟨rfl, rfl⟩

/-- Their canonical forms are alike. -/
theorem alike_canonical {name other : String} (h : Text.alike name other = true) :
    Text.alike (canonical name) (canonical other) = true := by
  rcases canonical_of_alike h with hsame | ⟨hname, hother⟩
  · rw [hsame, Text.alike_refl]
  · rwa [hname, hother]

/-- A known name has one spelling. -/
theorem canonical_eq_of_known {name other : String} (h : Text.alike name other = true)
    (hknown : canonical other ∈ known) : canonical name = canonical other := by
  rcases canonical_of_alike h with hsame | ⟨_, hother⟩
  · exact hsame
  · rw [hother] at hknown
    have hfound : (known.find? fun full => folded full == folded other).isSome = true := by
      rw [List.find?_isSome]
      exact ⟨other, hknown, beq_self_eq_true _⟩
    unfold canonical
    rw [folded_of_alike h]
    split
    · rfl
    · next hnone =>
      rw [hnone] at hfound
      cases hfound

/-- There is no colon in the canonical form of a token. -/
theorem colon_not_mem_canonical {name : String} (htoken : name.toList.all isTokenChar = true) :
    ':' ∉ (canonical name).toList := by
  rcases canonical_cases name with hknown | hkept
  · have hnone : ∀ full ∈ known, ':' ∉ full.toList := by decide +kernel
    exact hnone _ hknown
  · rw [hkept]
    intro hcolon
    have hmember := List.all_eq_true.mp htoken ':' hcolon
    cases hmember

end HeaderName

/-- The text of a header of plain text is its value without the white space around it. -/
theorem Header.text_ofText (names : Naming) {name : String} (value : String)
    (htoken : name.toList.all isTokenChar = true) :
    (Header.ofText name value).text names = Text.trim value := by
  have hline : ((Header.ofText name value).line names).toList =
      (HeaderName.canonical name).toList ++ ':' :: (' ' :: value.toList) := by
    simp [Header.line, Header.ofText, Header.name, Header.value]
  rw [Header.text, hline,
    Text.splitFirst?_append (HeaderName.colon_not_mem_canonical htoken)]
  dsimp only
  rw [Text.trimmed_cons_blank (by decide)]
  rfl

namespace Headers

/-- What is read under a name once a header was put in place of others: the headers that are spelled
otherwise and are found under the name, and the new one if it is. -/
theorem texts_replace (names : Naming) (headers : List Header) {name : String} (value : String)
    (htoken : name.toList.all isTokenChar = true) (wanted : String) :
    texts names (replace (.ofText name value) headers) wanted =
      texts names (headers.filter fun other => other.name ≠ HeaderName.canonical name) wanted ++
        if Text.alike (HeaderName.canonical name) wanted = true then [Text.trim value] else [] := by
  have hname : (Header.ofText name value).name = HeaderName.canonical name := rfl
  have hkept : headers.filter (fun other => other.name != (Header.ofText name value).name) =
      headers.filter fun other => other.name ≠ HeaderName.canonical name :=
    List.filter_congr fun other _ => by simp [hname, bne, BEq.beq]
  rw [replace, hkept, texts, texts, List.filter_append, List.map_append]
  refine congrArg (_ ++ ·) ?_
  by_cases hfound : Text.alike (HeaderName.canonical name) wanted = true
  · have hnamed : (Header.ofText name value).isNamed wanted = true := hfound
    rw [List.filter_cons_of_pos hnamed, if_pos hfound, List.filter_nil, List.map_singleton,
      Header.text_ofText names value htoken]
  · have hnamed : ¬ (Header.ofText name value).isNamed wanted = true := hfound
    rw [List.filter_cons_of_neg hnamed, if_neg hfound, List.filter_nil, List.map_nil]

/-- To take out the headers of a spelling leaves what is read under a name that is not it in another
case. -/
theorem texts_filter_of_unnamed (names : Naming) (headers : List Header) {spelling wanted : String}
    (hunnamed : ¬ Text.alike spelling wanted = true) :
    texts names (headers.filter fun other => other.name ≠ spelling) wanted =
      texts names headers wanted := by
  rw [texts, texts, List.filter_filter]
  congr 1
  refine List.filter_congr fun header _ => ?_
  by_cases hnamed : header.isNamed wanted = true
  · have hspelled : header.name ≠ spelling := by
      intro hsame
      rw [Header.isNamed, hsame] at hnamed
      exact hunnamed hnamed
    rw [hnamed, decide_eq_true hspelled, Bool.and_self]
  · rw [Bool.eq_false_iff.mpr hnamed, Bool.false_and]

/-- Under a name that is not the same in another case, nor another form of the same, everything is
read as before. -/
theorem texts_replace_of_other (names : Naming) (headers : List Header) {name : String}
    (value : String) (htoken : name.toList.all isTokenChar = true) {other : String}
    (hother : ¬ Text.alike (HeaderName.canonical name) (HeaderName.canonical other) = true) :
    texts names (replace (.ofText name value) headers) other = texts names headers other := by
  have hunnamed : ¬ Text.alike (HeaderName.canonical name) other = true := by
    intro halike
    have hforms := HeaderName.alike_canonical halike
    rw [HeaderName.canonical_canonical] at hforms
    exact hother hforms
  rw [texts_replace names headers value htoken, if_neg hunnamed, List.append_nil,
    texts_filter_of_unnamed names headers hunnamed]

/-- A header is found under a name that it has, and under no name without it. -/
theorem has_iff_texts (names : Naming) (headers : List Header) (name : String) :
    has headers name = true ↔ texts names headers name ≠ [] := by
  simp [has, texts, List.filter_eq_nil_iff, List.any_eq_true]

end Headers

/-- The headers of a message once one was put in place of others. -/
theorem Message.headers_replace (message : Message) (header : Header) :
    (message.replace header).headers = Headers.replace header message.headers := by
  cases message <;> rfl

/-- **What is found after a replacement.** After a header of plain text was put in under a token,
its value, trimmed, is all that is found under that token exactly if the message has no header of
this name in another spelling; or, if the token is a short form, exactly if that is what was found
under it before. A header under a canonical name is never found under a short form, and has no other
spelling if the name is known. Under any other name everything is found as before. -/
theorem Message.found_after_replace_iff (names : Naming) (message : Message) (name value : String)
    (htoken : name.toList.all isTokenChar = true) :
    let replaced := (message.replace (.ofText name value)).headers
    ((Headers.texts names replaced name = [Text.trim value] ∧
        Headers.has replaced name = true) ↔
      if Text.alike (HeaderName.canonical name) name = true then
        ∀ header ∈ message.headers, header.isNamed name = true →
          header.name = HeaderName.canonical name
      else Headers.texts names message.headers name = [Text.trim value]) ∧
    (∀ header ∈ message.headers, HeaderName.canonical header.name = header.name →
      header.isNamed name = true →
        Text.alike (HeaderName.canonical name) name = true ∧
          (HeaderName.canonical name ∈ HeaderName.known →
            header.name = HeaderName.canonical name)) ∧
    ∀ other, ¬ Text.alike (HeaderName.canonical name) (HeaderName.canonical other) = true →
      Headers.texts names replaced other = Headers.texts names message.headers other := by
  intro replaced
  have hreplaced : replaced = Headers.replace (.ofText name value) message.headers :=
    message.headers_replace _
  have htexts := Headers.texts_replace names message.headers value htoken name
  rw [← hreplaced] at htexts
  refine ⟨?_, fun header hheader hcanonical hnamed => ⟨?_, fun hknown => ?_⟩,
    fun other hother => ?_⟩
  · rw [Headers.has_iff_texts names]
    by_cases hfull : Text.alike (HeaderName.canonical name) name = true
    · have hnone : Headers.texts names
          (message.headers.filter fun other => other.name ≠ HeaderName.canonical name) name = [] ↔
          ∀ header ∈ message.headers, header.isNamed name = true →
            header.name = HeaderName.canonical name := by
        simp only [Headers.texts, List.map_eq_nil_iff, List.filter_eq_nil_iff, List.mem_filter,
          decide_eq_true_eq, ne_eq]
        grind
      rw [if_pos hfull] at htexts ⊢
      rw [htexts, ← hnone]
      simp
    · -- Nothing that is found under a short form was taken out.
      have hkept : Headers.texts names
          (message.headers.filter fun other => other.name ≠ HeaderName.canonical name) name =
          Headers.texts names message.headers name :=
        Headers.texts_filter_of_unnamed names message.headers hfull
      rw [if_neg hfull] at htexts ⊢
      rw [htexts, List.append_nil, hkept]
      constructor
      · exact fun h => h.1
      · intro h
        exact ⟨h, by simp [h]⟩
  · have hforms := HeaderName.alike_canonical hnamed
    rw [hcanonical] at hforms
    exact Text.alike_trans (Text.alike_comm _ _ ▸ hforms) hnamed
  · rw [← hcanonical]
    exact HeaderName.canonical_eq_of_known hnamed hknown
  · rw [hreplaced]
    exact Headers.texts_replace_of_other names message.headers value htoken hother

/-- A request with a Call-ID and a header of its own, for the examples. -/
def sampleMessage : Message :=
  .request { (default : Request) with headers := [.callId (.given "c"), .ofText "X-Note" "a"] }

/-- In the example, a Call-ID that is put in under its name in small letters is all that is found
under that name, and the other header is found as before. -/
theorem small_letters_found_in_sample :
    "call-id".toList.all isTokenChar = true ∧
    let replaced := (sampleMessage.replace (.ofText "call-id" " d ")).headers
    Headers.texts .plain replaced "call-id" = ["d"] ∧
      Headers.has replaced "call-id" = true ∧
      Headers.texts .plain replaced "x-note" =
        Headers.texts .plain sampleMessage.headers "x-note" := by
  have htoken : "call-id".toList.all isTokenChar = true := by decide +kernel
  have hfull : Text.alike (HeaderName.canonical "call-id") "call-id" = true := by decide +kernel
  have hspelled : ∀ header ∈ sampleMessage.headers, header.isNamed "call-id" = true →
      header.name = HeaderName.canonical "call-id" := by decide +kernel
  have htrim : Text.trim " d " = "d" := by decide +kernel
  obtain ⟨hfound, _, hothers⟩ :=
    Message.found_after_replace_iff .plain sampleMessage "call-id" " d " htoken
  rw [if_pos hfull] at hfound
  obtain ⟨htexts, hhas⟩ := hfound.mpr hspelled
  exact ⟨htoken, htexts.trans (by rw [htrim]), hhas, hothers "x-note" (by decide +kernel)⟩

/-- But a header that is put in under a name in small letters stands beside one that was there in
capitals, and one that is put in under a short form is not found under it. -/
theorem other_spelling_stays_in_sample :
    "x-note".toList.all isTokenChar = true ∧ "i".toList.all isTokenChar = true ∧
    (∀ header ∈ sampleMessage.headers, HeaderName.canonical header.name = header.name) ∧
    Headers.texts .plain (sampleMessage.replace (.ofText "x-note" "b")).headers "x-note" =
      ["a", "b"] ∧
    Headers.texts .plain (sampleMessage.replace (.ofText "i" "d")).headers "i" = [] ∧
    Headers.has (sampleMessage.replace (.ofText "i" "d")).headers "i" = false := by
  decide +kernel

end Sip

end ImsClient
