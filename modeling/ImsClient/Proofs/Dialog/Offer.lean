import ImsClient.Proofs.Dialog.Request
import Mathlib.Data.List.TakeWhile

/-!
# What an offer carries

A re-INVITE names the feature tags that it offers twice: as parameters of its Contact,
and joined by semicolons in its Accept-Contact. Either of them alone may be the same for
two lists of tags, since a parameter is trimmed and a tag may hold a semicolon; both
together are the same for one list only.
-/

namespace ImsClient

namespace Text

/-- To leave out characters at the front leaves the number of any other character. -/
theorem count_dropWhile {p : Char → Bool} {c : Char} (hc : p c = false) (text : List Char) :
    (text.dropWhile p).count c = text.count c := by
  have hsplit := congrArg (List.count c) (List.takeWhile_append_dropWhile (p := p) (l := text))
  have hnone : (text.takeWhile p).count c = 0 := by
    refine List.count_eq_zero.mpr fun hmem => ?_
    rw [List.mem_takeWhile_imp hmem] at hc
    cases hc
  rw [List.count_append] at hsplit
  omega

/-- To trim a text leaves the number of any character that is no white space. -/
theorem count_trimmed {c : Char} (hc : isBlank c = false) (text : List Char) :
    (trimmed text).count c = text.count c := by
  simp only [trimmed, trimEnd, trimStart, List.count_reverse, count_dropWhile hc]

/-- To take the quotes off a text leaves the number of any other character. -/
theorem count_stripQuotes {c : Char} (hc : isBlank c = false) (hquote : c ≠ '"')
    (text : List Char) : (stripQuotes text).count c = text.count c := by
  rw [← count_trimmed hc text]
  unfold stripQuotes
  split
  · next rest htrimmed =>
    rw [htrimmed, List.count_cons_of_ne hquote.symm]
    split
    · next hlast =>
      obtain ⟨before, rfl⟩ := List.getLast?_eq_some_iff.mp hlast
      simp [List.count_append, hquote.symm]
    · exact List.count_cons_of_ne hquote.symm
  · next hbare => rfl

/-- Texts that end at a separator are the same if what follows is, and they hold as many
separators. -/
theorem eq_of_append_separator {c : Char} {text other rest more : List Char}
    (heq : text ++ c :: rest = other ++ c :: more) (hcount : text.count c = other.count c) :
    text = other := by
  have hlonger {short long tail : List Char} (hshort : short.count c = long.count c)
      (hlong : long = short ++ c :: tail) : False := by
    rw [hlong, List.count_append, List.count_cons_self] at hshort
    omega
  rcases List.append_eq_append_iff.mp heq with ⟨gap, hother, hgap⟩ | ⟨gap, htext, hgap⟩
  · cases gap with
    | nil => rw [hother, List.append_nil]
    | cons first gap =>
      cases hgap
      exact (hlonger hcount hother).elim
  · cases gap with
    | nil => rw [htext, List.append_nil]
    | cons first gap =>
      cases hgap
      exact (hlonger hcount.symm htext).elim

end Text

namespace Dialog

/-- The semicolons in a feature tag that was read. -/
def semicolons : Sip.Param → Nat
  | .flag name => name.toList.count ';'
  | .token name value | .quoted name value => name.toList.count ';' + value.toList.count ';'
  | _ => 0

/-- A feature tag keeps its semicolons when it is read. -/
theorem semicolons_featureParam (tag : String) :
    semicolons (featureParam tag) = tag.toList.count ';' := by
  have hblank : Text.isBlank ';' = false := by decide
  unfold featureParam
  split
  · simp only [semicolons, Text.trim, String.toList_ofList, Text.count_trimmed hblank]
  · next name value hsplit =>
    rw [Text.eq_append_of_splitFirst? hsplit, List.count_append,
      List.count_cons_of_ne (by decide)]
    dsimp only
    split
    · simp only [semicolons, String.toList_ofList, Text.count_stripQuotes hblank (by decide),
        Text.count_trimmed hblank]
    · simp only [semicolons, String.toList_ofList, Text.count_trimmed hblank]

/-- Feature tags that are read alike and give the same text when joined are the same. -/
theorem eq_of_featureParam {tags others : List String}
    (hparams : tags.map featureParam = others.map featureParam)
    (hjoined : String.intercalate ";" tags = String.intercalate ";" others) : tags = others := by
  replace hjoined := congrArg String.toList hjoined
  simp only [String.toList_intercalate] at hjoined
  induction tags generalizing others with
  | nil =>
    cases others with
    | nil => rfl
    | cons => cases hparams
  | cons tag tags ih =>
    cases others with
    | nil => cases hparams
    | cons other others =>
      obtain ⟨hhead, htail⟩ := List.cons_eq_cons.mp hparams
      have hcount : tag.toList.count ';' = other.toList.count ';' := by
        rw [← semicolons_featureParam, hhead, semicolons_featureParam]
      have hlength : tags.length = others.length := by
        simpa using congrArg List.length htail
      cases tags with
      | nil =>
        obtain rfl : others = [] := List.length_eq_zero_iff.mp hlength.symm
        refine congrArg (· :: []) (String.toList_inj.mp ?_)
        simpa using hjoined
      | cons next tags =>
        cases others with
        | nil => cases hlength
        | cons second others =>
          simp only [List.map_cons, List.intercalate_cons_cons, List.append_assoc] at hjoined
          have hsame : tag.toList = other.toList := Text.eq_of_append_separator hjoined hcount
          rw [hsame, List.append_cancel_left_eq, List.append_cancel_left_eq] at hjoined
          rw [String.toList_inj.mp hsame, ih htail hjoined]

/-! ### The re-INVITE -/

/-- The Accept-Contact of an offer, if it offers any feature tags. -/
def wanted (featureTags : List String) : List Sip.Header :=
  if featureTags.isEmpty then []
  else [.ofText "Accept-Contact" ("*;" ++ String.intercalate ";" featureTags)]

/-- The re-INVITE of a dialog whose texts were read. -/
def Reading.offer (reading : Reading) (dialog : Dialog) (bound : Endpoint)
    (featureTags : List String) (content : String) (branch : Identifier) : Sip.Request :=
  let base := reading.request .invite dialog bound branch
  { base with
    headers := base.headers ++
      ([contact bound none featureTags, .ofText "Content-Type" sessionDescription,
        .contentLength (Sip.Body.text content).size] ++ wanted featureTags)
    body := .text content }

variable {dialog : Dialog} {bound : Endpoint} {reading : Reading}

/-- No header of an offer gives the length of its body before the body is set. -/
theorem Reading.withLength_offer (reading : Reading) (dialog : Dialog) (bound : Endpoint)
    (featureTags : List String) (branch : Identifier) (body : Sip.Body) :
    Sip.Headers.withLength body
        ((reading.request .invite dialog bound branch).headers ++
          [contact bound none featureTags, .ofText "Content-Type" sessionDescription]) =
      (reading.request .invite dialog bound branch).headers ++
        [contact bound none featureTags, .ofText "Content-Type" sessionDescription,
          .contentLength body.size] := by
  have htype : (Sip.Header.ofText "Content-Type" sessionDescription).name ≠ "Content-Length" := by
    rw [Sip.Header.name_ofText]
    decide +kernel
  unfold Sip.Headers.withLength
  rw [List.filter_eq_self.mpr]
  · rw [List.append_assoc]
    rfl
  · refine fun header hheader => bne_iff_ne.mpr ?_
    rcases List.mem_append.mp hheader with hbase | hoffer
    · simp only [Reading.request, List.cons_append, List.nil_append, List.mem_cons,
        List.mem_map] at hbase
      rcases hbase with rfl | rfl | rfl | rfl | rfl | rfl | ⟨_, _, rfl⟩ <;>
        simp [Sip.Header.name]
    · simp only [contact, List.mem_cons, List.not_mem_nil, or_false] at hoffer
      rcases hoffer with rfl | rfl
      · simp [Sip.Header.name]
      · exact htype

/-- A re-INVITE is built if the texts can be read. -/
theorem reinvite_eq (dialog : Dialog) (bound : Endpoint) (featureTags : List String)
    (content : String) (supply : Supply) :
    dialog.reinvite bound featureTags content supply =
      dialog.read.map fun reading =>
        (reading.offer dialog bound featureTags content (supply.draw .branch).1,
          (supply.draw .branch).2) := by
  unfold reinvite
  rw [request_eq]
  cases dialog.read with
  | error e => rfl
  | ok reading =>
    have hlength := reading.withLength_offer dialog bound featureTags (supply.draw .branch).1
      (.text content)
    by_cases hplain : featureTags.isEmpty = true <;>
      simp [hplain, bind, Except.bind, Except.map, pure, Except.pure, Reading.offer, wanted,
        Sip.Request.withBody, Sip.Request.add, hlength]

/-- The Contact and the Accept-Contact of two offers are the same exactly if the feature tags
are. -/
theorem contact_wanted_inj {tags others : List String} :
    contact bound none tags = contact bound none others ∧ wanted tags = wanted others ↔
      tags = others := by
  constructor
  · rintro ⟨hcontact, hwanted⟩
    have hparams : tags.map featureParam = others.map featureParam := by
      simpa [contact] using hcontact
    refine eq_of_featureParam hparams ?_
    have hempty : tags.isEmpty = others.isEmpty := by
      rw [← List.isEmpty_map (f := featureParam), hparams, List.isEmpty_map]
    unfold wanted at hwanted
    cases hothers : others.isEmpty with
    | true =>
      rw [hothers] at hempty
      rw [List.isEmpty_iff.mp hempty, List.isEmpty_iff.mp hothers]
    | false =>
      simpa [hempty, hothers, Sip.Header.ofText, ← String.toList_inj] using hwanted
  · rintro rfl
    exact ⟨rfl, rfl⟩

/-- Headers that all have one name are kept or left out together. -/
theorem filter_of_name {headers : List Sip.Header} {name : String}
    (hname : ∀ header ∈ headers, header.name = name) (p : String → Bool) :
    headers.filter (fun header => p header.name) = if p name then headers else [] := by
  split
  · next hp => exact List.filter_eq_self.mpr fun header hheader => (hname header hheader).symm ▸ hp
  · next hp =>
      exact List.filter_eq_nil_iff.mpr fun header hheader => (hname header hheader).symm ▸ hp

/-- The headers of an offer whose names have some property. -/
theorem Reading.filter_offer (reading : Reading) (dialog : Dialog) (bound : Endpoint)
    (featureTags : List String) (content : String) (branch : Identifier) (p : String → Bool) :
    (reading.offer dialog bound featureTags content branch).headers.filter
        (fun header => p header.name) =
      (if p "Via" then [.via [hop bound branch]] else []) ++
      ((if p "Max-Forwards" then [.maxForwards 70] else []) ++
      ((if p "From" then [.sender { uri := reading.us, params := [.tag dialog.localTag] }]
        else []) ++
      ((if p "To" then [.recipient
          { uri := reading.them, params := (dialog.remoteTag.map Sip.Param.tag).toList }]
        else []) ++
      ((if p "Call-ID" then [.callId dialog.callId] else []) ++
      ((if p "CSeq" then [.cSeq dialog.cSeq .invite] else []) ++
      ((if p "Route" then reading.route.map Sip.Header.route else []) ++
      ((if p "Contact" then [contact bound none featureTags] else []) ++
      ((if p "Content-Type" then [.ofText "Content-Type" sessionDescription] else []) ++
      ((if p "Content-Length" then [.contentLength (Sip.Body.text content).size] else []) ++
      (if p "Accept-Contact" then wanted featureTags else [])))))))))) := by
  have htype : (Sip.Header.ofText "Content-Type" sessionDescription).name = "Content-Type" := by
    rw [Sip.Header.name_ofText]
    decide +kernel
  have hroutes : ∀ header ∈ reading.route.map Sip.Header.route, header.name = "Route" := by
    intro header hheader
    obtain ⟨entries, _, rfl⟩ := List.mem_map.mp hheader
    rfl
  have hwanted : ∀ header ∈ wanted featureTags, header.name = "Accept-Contact" := by
    intro header hheader
    unfold wanted at hheader
    split at hheader
    · cases hheader
    · rw [List.mem_singleton.mp hheader]
      rw [Sip.Header.name_ofText]
      decide +kernel
  have hone {header : Sip.Header} {name : String} (h : header.name = name) :
      ∀ other ∈ [header], other.name = name := by
    simpa using h
  have hheaders : (reading.offer dialog bound featureTags content branch).headers =
      [.via [hop bound branch]] ++ ([.maxForwards 70] ++
      ([.sender { uri := reading.us, params := [.tag dialog.localTag] }] ++
      ([.recipient
          { uri := reading.them, params := (dialog.remoteTag.map Sip.Param.tag).toList }] ++
      ([.callId dialog.callId] ++ ([.cSeq dialog.cSeq .invite] ++
      (reading.route.map Sip.Header.route ++ ([contact bound none featureTags] ++
      ([.ofText "Content-Type" sessionDescription] ++
      ([.contentLength (Sip.Body.text content).size] ++ wanted featureTags))))))))) := by
    simp [Reading.offer, Reading.request]
  rw [hheaders]
  simp only [List.filter_append]
  rw [filter_of_name hroutes, filter_of_name hwanted, filter_of_name (hone htype)]
  simp only [List.filter_cons, List.filter_nil]
  rfl

/-- The names of the headers in which one try of an offer differs from the next. -/
def renewed : List String := ["Via", "CSeq", "Proxy-Authorization"]

/-- The names of the headers that name the feature tags. -/
def tagged : List String := ["Contact", "Accept-Contact"]

/-- What an offer carries in any try. -/
theorem Reading.lasting_offer (reading : Reading) (dialog : Dialog) (bound : Endpoint)
    (featureTags : List String) (content : String) (branch : Identifier) :
    (reading.offer dialog bound featureTags content branch).headers.filter
        (fun header => header.name ∉ renewed) =
      [.maxForwards 70, .sender { uri := reading.us, params := [.tag dialog.localTag] },
        .recipient
          { uri := reading.them, params := (dialog.remoteTag.map Sip.Param.tag).toList },
        .callId dialog.callId] ++ reading.route.map Sip.Header.route ++
      ([contact bound none featureTags, .ofText "Content-Type" sessionDescription,
        .contentLength (Sip.Body.text content).size] ++ wanted featureTags) := by
  rw [reading.filter_offer _ _ _ _ _ (fun name => decide (name ∉ renewed))]
  simp [renewed]

/-- What an offer carries in any try and for any feature tags. -/
theorem Reading.common_offer (reading : Reading) (dialog : Dialog) (bound : Endpoint)
    (featureTags : List String) (content : String) (branch : Identifier) :
    (reading.offer dialog bound featureTags content branch).headers.filter
        (fun header => header.name ∉ renewed ++ tagged) =
      [.maxForwards 70, .sender { uri := reading.us, params := [.tag dialog.localTag] },
        .recipient
          { uri := reading.them, params := (dialog.remoteTag.map Sip.Param.tag).toList },
        .callId dialog.callId] ++ reading.route.map Sip.Header.route ++
      [.ofText "Content-Type" sessionDescription,
        .contentLength (Sip.Body.text content).size] := by
  rw [reading.filter_offer _ _ _ _ _ (fun name => decide (name ∉ renewed ++ tagged))]
  simp [renewed, tagged]

/-- The one Via of an offer. -/
theorem Reading.via_offer (reading : Reading) (dialog : Dialog) (bound : Endpoint)
    (featureTags : List String) (content : String) (branch : Identifier) :
    (reading.offer dialog bound featureTags content branch).headers.filter (·.name = "Via") =
      [.via [hop bound branch]] := by
  rw [reading.filter_offer _ _ _ _ _ (fun name => decide (name = "Via"))]
  simp

/-- An offer is one of its dialog. -/
theorem Reading.carries_offer (hread : dialog.read = .ok reading) (bound : Endpoint)
    (featureTags : List String) (content : String) (supply : Supply) :
    dialog.Carries (reading.offer dialog bound featureTags content (supply.draw .branch).1) := by
  refine (dialog.reinvite_spec bound featureTags content supply).2 _ (supply.draw .branch).2 ?_
  rw [reinvite_eq, hread]
  rfl

end Dialog

end ImsClient
