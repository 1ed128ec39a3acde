import ImsClient.Proofs.Json.RoundTrip
import ImsClient.Proofs.Json.Shapes
import ImsClient.Proofs.Lookup
import ImsClient.Proofs.Settings.Validation
import ImsClient.Settings.Document

/-!
# Settings and their documents

Settings that are written as a document are read back from it, whatever text they hold and
however large their numbers are, and checked like any others. The order of the fields, fields
under other names, and fields that have their default and are left out make no difference.
What a document gives is usable: a client can be built of it.
-/

namespace ImsClient.Settings

/-- Settings whose numbers have no more bits than they may have. -/
structure InRange (settings : Settings) : Prop where
  registrationExpiry : settings.registrationExpiry < 2 ^ 32
  transactionTimeout : settings.transactionTimeout < 2 ^ 64
  maxChatSessions : settings.maxChatSessions < 2 ^ 64
  maxFileTransferSessions : settings.maxFileTransferSessions < 2 ^ 64
  ringingPeriod : settings.ringingPeriod < 2 ^ 64
  capabilityWindow_least : -2 ^ 63 ≤ settings.capabilityWindow
  capabilityWindow_greatest : settings.capabilityWindow < 2 ^ 63
  pollingPeriod : settings.pollingPeriod < 2 ^ 64

/-- The fields of an object that comes from the document of settings by changing the order,
adding fields under unknown names, and leaving out fields that have their default. -/
inductive Variant (settings : Settings) : List (String × Json) → Prop where
  | written : Variant settings settings.fields
  | reordered {given other : List (String × Json)} (h : Variant settings given)
      (horder : given.Perm other) : Variant settings other
  | added {given : List (String × Json)} (h : Variant settings given) {name : String}
      (hname : name ∉ fieldNames) (value : Json) : Variant settings ((name, value) :: given)
  | omitted {given : List (String × Json)} {field : String × Json}
      (h : Variant settings (field :: given)) (hdefault : field ∈ ({} : Settings).fields) :
      Variant settings given

variable {s : Settings} {given found : List (String × Json)}

/-! ### The fields -/

theorem names_fields (s : Settings) : s.fields.map Prod.fst = fieldNames := rfl

theorem nodup_fieldNames : fieldNames.Nodup := by decide

/-- A field is among the known ones. -/
theorem name_mem_of_mem_fields {field : String × Json} (h : field ∈ s.fields) :
    field.1 ∈ fieldNames := by
  rw [← names_fields s]
  exact List.mem_map.mpr ⟨field, h, rfl⟩

/-- There is one field under a name. -/
theorem lookup_fields {name : String} {value : Json} :
    s.fields.lookup name = some value ↔ (name, value) ∈ s.fields :=
  lookup_eq_some_iff_mem_of_nodup (by rw [names_fields]; exact nodup_fieldNames)

/-- Every field is written as a proper document. -/
theorem isProper_of_mem_fields {field : String × Json} (h : field ∈ s.fields) :
    field.2.IsProper := by
  have htext (text : String) : (Json.ofString text).IsProper := .string (some text)
  have hoption (value : Option String) : (Json.ofOption .ofString value).IsProper := by
    cases value with
    | none => exact .null
    | some text => exact htext text
  have htags : (Json.array (s.featureTags.map .ofString)).IsProper := by
    refine .array fun item hitem => ?_
    obtain ⟨text, -, rfl⟩ := List.mem_map.mp hitem
    exact htext text
  revert field
  simp only [fields, List.forall_mem_cons, List.not_mem_nil, false_implies, implies_true, and_true]
  refine ⟨htext _, htext _, hoption _, hoption _, hoption _, .integer _, .integer _, htags,
    htext _, .integer _, .integer _, .integer _, .integer _, .integer _, htext _, .bool _⟩

/-- The fields that an object has of settings: each of them once, and all but some that have their
default. -/
structure Shown (s : Settings) (found : List (String × Json)) : Prop where
  nodup : (found.map Prod.fst).Nodup
  mem_fields : ∀ field ∈ found, field ∈ s.fields
  mem_defaults : ∀ field ∈ s.fields, field ∉ found → field ∈ ({} : Settings).fields

/-- The fields under known names in a variant. -/
def known (given : List (String × Json)) : List (String × Json) :=
  given.filter fun field => fieldNames.contains field.1

/-- Of a variant the fields of the settings are found. -/
theorem Variant.shown (h : Variant s given) : Shown s (known given) := by
  induction h with
  | written =>
    have hall : known s.fields = s.fields := rfl
    rw [hall]
    exact ⟨by rw [names_fields]; exact nodup_fieldNames, fun _ => id, fun _ h h' => absurd h h'⟩
  | reordered h horder ih =>
    have hknown := horder.filter fun field => fieldNames.contains field.1
    exact ⟨(hknown.map Prod.fst).nodup_iff.mp ih.nodup,
      fun field hfield => ih.mem_fields field (hknown.mem_iff.mpr hfield),
      fun field hfield hnot => ih.mem_defaults field hfield fun h => hnot (hknown.mem_iff.mp h)⟩
  | added h hname value ih =>
    rwa [known, List.filter_cons_of_neg (by simpa using hname)]
  | @omitted given field h hdefault ih =>
    have hfield : known (field :: given) = field :: known given :=
      List.filter_cons_of_pos (by simpa using name_mem_of_mem_fields hdefault)
    rw [hfield] at ih
    refine ⟨(List.nodup_cons.mp ih.nodup).2, fun other hother =>
      ih.mem_fields other (List.mem_cons_of_mem field hother), fun other hother hnot => ?_⟩
    by_cases hsame : other = field
    · exact hsame ▸ hdefault
    · exact ih.mem_defaults other hother (by simp [hsame, hnot])

/-- All fields of some kind that have their default can be left out at once. -/
theorem Variant.without (h : Variant s given) (p : String × Json → Bool)
    (hdefault : ∀ field ∈ given, p field = true → field ∈ ({} : Settings).fields) :
    Variant s (given.filter fun field => !p field) := by
  have homit {out rest : List (String × Json)} (h : Variant s (out ++ rest))
      (hout : ∀ field ∈ out, field ∈ ({} : Settings).fields) : Variant s rest := by
    induction out with
    | nil => exact h
    | cons field out ih =>
      obtain ⟨hfield, hout⟩ := List.forall_mem_cons.mp hout
      exact ih (h.omitted hfield) hout
  refine homit (h.reordered (List.filter_append_perm p given).symm) fun field hfield => ?_
  obtain ⟨hgiven, hp⟩ := List.mem_filter.mp hfield
  exact hdefault field hgiven hp

/-! ### Reading them back -/

variable {α β : Type} {name : String} {read? : Json → Option α} {default x : α}

/-- A field with a default is read from the field of the settings, whether it was left out or
not. -/
theorem Shown.defaulted?_eq (h : Shown s found)
    (hdefault : (({} : Settings).fields.lookup name).bind read? = some default)
    (hx : (s.fields.lookup name).bind read? = some x) :
    Json.defaulted? found name read? default = some x := by
  obtain ⟨value, hvalue, hread⟩ := Option.bind_eq_some_iff.mp hx
  have hfield := lookup_fields.mp hvalue
  rw [Json.defaulted?]
  cases hfound : found.lookup name with
  | some shown =>
    have hshown := lookup_fields.mpr (h.mem_fields _ (mem_of_lookup hfound))
    rw [hvalue] at hshown
    rwa [← Option.some.inj hshown]
  | none =>
    have hnot : (name, value) ∉ found := by
      intro hmem
      rw [(lookup_eq_some_iff_mem_of_nodup h.nodup).mpr hmem] at hfound
      cases hfound
    have husual := lookup_fields.mpr (h.mem_defaults _ hfield hnot)
    rw [husual, Option.bind_some, hread] at hdefault
    exact hdefault.symm

/-- So the reading goes on with the value in the settings. -/
theorem Shown.bind_defaulted? (h : Shown s found) {rest : α → Option β} {result : Option β}
    (hdefault : (({} : Settings).fields.lookup name).bind read? = some default)
    (hx : (s.fields.lookup name).bind read? = some x) (hrest : rest x = result) :
    (Json.defaulted? found name read? default >>= rest) = result := by
  rw [h.defaulted?_eq hdefault hx]
  exact hrest

/-- The settings are read back from a variant of their fields. -/
theorem ofJson?_of_variant (hrange : s.InRange) (h : Variant s given) :
    ofJson? (.ofFields given) = some s := by
  have hshown := h.shown
  have hoption (value : Option String) :
      Json.option? Json.string? (.ofOption .ofString value) = some value :=
    Json.option?_ofOption Json.string?_ofString (by simp [Json.ofString]) value
  have hprocedure (procedure : Procedure.Scheme) :
      Json.choice? Procedure.Scheme.label Procedure.Scheme.all (.ofString procedure.label) =
        some procedure :=
    Json.choice?_ofString (by cases procedure <;> decide)
      (by cases procedure <;> decide)
  rw [ofJson?, Json.fields?_ofFields hshown.nodup]
  refine hshown.bind_defaulted? rfl rfl ?_
  refine hshown.bind_defaulted? rfl rfl ?_
  refine hshown.bind_defaulted? rfl (hoption _) ?_
  refine hshown.bind_defaulted? rfl (hoption _) ?_
  refine hshown.bind_defaulted? rfl (hoption _) ?_
  refine hshown.bind_defaulted? rfl (Json.natural?_integer hrange.registrationExpiry) ?_
  refine hshown.bind_defaulted? rfl (Json.natural?_integer hrange.transactionTimeout) ?_
  refine hshown.bind_defaulted? rfl (Json.list?_map Json.string?_ofString _) ?_
  refine hshown.bind_defaulted? rfl (hprocedure _) ?_
  refine hshown.bind_defaulted? rfl (Json.natural?_integer hrange.maxChatSessions) ?_
  refine hshown.bind_defaulted? rfl (Json.natural?_integer hrange.maxFileTransferSessions) ?_
  refine hshown.bind_defaulted? rfl (Json.natural?_integer hrange.ringingPeriod) ?_
  refine hshown.bind_defaulted? rfl
    (Json.signed?_integer hrange.capabilityWindow_least hrange.capabilityWindow_greatest) ?_
  refine hshown.bind_defaulted? rfl (Json.natural?_integer hrange.pollingPeriod) ?_
  refine hshown.bind_defaulted? rfl rfl ?_
  refine hshown.bind_defaulted? rfl rfl ?_
  rfl

/-- Settings that are read from a document are in range. -/
theorem inRange_of_ofJson? {doc : Json} (h : ofJson? doc = some s) : s.InRange := by
  unfold ofJson? at h
  iterate 6 obtain ⟨_, -, h⟩ := Option.bind_eq_some_iff.mp h
  obtain ⟨expiry, hexpiry, h⟩ := Option.bind_eq_some_iff.mp h
  obtain ⟨timeout, htimeout, h⟩ := Option.bind_eq_some_iff.mp h
  iterate 2 obtain ⟨_, -, h⟩ := Option.bind_eq_some_iff.mp h
  obtain ⟨chats, hchats, h⟩ := Option.bind_eq_some_iff.mp h
  obtain ⟨files, hfiles, h⟩ := Option.bind_eq_some_iff.mp h
  obtain ⟨ringing, hringing, h⟩ := Option.bind_eq_some_iff.mp h
  obtain ⟨window, hwindow, h⟩ := Option.bind_eq_some_iff.mp h
  obtain ⟨polling, hpolling, h⟩ := Option.bind_eq_some_iff.mp h
  iterate 2 obtain ⟨_, -, h⟩ := Option.bind_eq_some_iff.mp h
  cases h
  have hbits {fields : List (String × Json)} {bits n usual : Nat} {name : String}
      (hread : Json.defaulted? fields name (Json.natural? bits) usual = some n)
      (husual : usual < 2 ^ bits) : n < 2 ^ bits :=
    Json.forall_defaulted? (p := (· < 2 ^ bits)) hread Json.lt_of_natural? husual
  have hwindow := Json.forall_defaulted? (p := fun value => -2 ^ 63 ≤ value ∧ value < 2 ^ 63)
    hwindow Json.bounds_of_signed? (by decide)
  exact {
    registrationExpiry := hbits hexpiry (by decide)
    transactionTimeout := hbits htimeout (by decide)
    maxChatSessions := hbits hchats (by decide)
    maxFileTransferSessions := hbits hfiles (by decide)
    ringingPeriod := hbits hringing (by decide)
    capabilityWindow_least := hwindow.1
    capabilityWindow_greatest := hwindow.2
    pollingPeriod := hbits hpolling (by decide) }

/-! ### Documents as texts -/

variable {text : String}

/-- Settings are read from every text of a variant if they are usable, and otherwise it is told why
they are not. -/
theorem ofText_of_variant (hrange : s.InRange) (h : Variant s given)
    (hparse : Json.parse? text = some (.ofFields given)) :
    ofText text = s.validate.map fun _ => s := by
  rw [ofText, hparse, Option.bind_some, ofJson?_of_variant hrange h]
  show (s.validate >>= fun _ => pure s) = s.validate.map fun _ => s
  cases s.validate <;> rfl

/-- A variant is a proper document if its unknown fields are. -/
theorem Variant.isProper (h : Variant s given)
    (hunknown : ∀ field ∈ given, field.1 ∉ fieldNames → field.2.IsProper) :
    (Json.ofFields given).IsProper := by
  refine .object fun member hmember => ?_
  obtain ⟨field, hfield, rfl⟩ := List.mem_map.mp hmember
  by_cases hname : field.1 ∈ fieldNames
  · have hknown : field ∈ known given := List.mem_filter.mpr ⟨hfield, by simpa using hname⟩
    exact isProper_of_mem_fields (h.shown.mem_fields field hknown)
  · exact hunknown field hfield hname

/-- So they are from the text that a variant is written as. -/
theorem ofText_text_of_variant (hrange : s.InRange) (h : Variant s given)
    (hunknown : ∀ field ∈ given, field.1 ∉ fieldNames → field.2.IsProper) :
    ofText (Json.ofFields given).text = s.validate.map fun _ => s :=
  ofText_of_variant hrange h (Json.parse?_text (h.isProper hunknown))

/-- And so they are from their own document. -/
theorem ofText_toJson (hrange : s.InRange) : ofText s.toJson.text = s.validate.map fun _ => s :=
  ofText_text_of_variant hrange .written fun _ hfield hname =>
    absurd (name_mem_of_mem_fields hfield) hname

/-- What a text gives is read from its document, and usable. -/
theorem exists_of_ofText (h : ofText text = .ok s) :
    (∃ doc, Json.parse? text = some doc ∧ ofJson? doc = some s) ∧ s.validate = .ok () := by
  unfold ofText at h
  split at h
  · cases h
  · next found hfound =>
    cases hvalid : found.validate with
    | error e =>
      rw [hvalid] at h
      cases h
    | ok =>
      rw [hvalid] at h
      obtain rfl := Except.ok.inj h
      exact ⟨Option.bind_eq_some_iff.mp hfound, hvalid⟩

/-- So it is given by its own document as well. -/
theorem ofText_toJson_of_ofText (h : ofText text = .ok s) : ofText s.toJson.text = .ok s := by
  obtain ⟨⟨doc, -, hread⟩, hvalid⟩ := exists_of_ofText h
  rw [ofText_toJson (inRange_of_ofJson? hread), hvalid]
  rfl

/-- Settings are read back from the text of their document if they are usable, and told why not
otherwise. So they are from every text of an object that comes from that document by changing the
order of its fields, adding fields under unknown names and leaving out fields that have their
default; the text of the object itself is one if its numbers are numbers. What is wrong is told of
as settings. Every text that gives settings gives usable ones, which their own document gives as
well, and which have a procedure and a way of logging. -/
theorem documents_read_back :
    (∀ s : Settings, s.InRange → ofText s.toJson.text = s.validate.map fun _ => s) ∧
      (∀ (s : Settings) (given : List (String × Json)), s.InRange → Variant s given →
        (∀ text, Json.parse? text = some (.ofFields given) →
          ofText text = s.validate.map fun _ => s) ∧
        ((∀ field ∈ given, field.1 ∉ fieldNames → field.2.IsProper) →
          ofText (Json.ofFields given).text = s.validate.map fun _ => s)) ∧
      (∀ (s : Settings) (e : Error), s.validate = .error e → ∃ text, e = .config text) ∧
      ∀ (text : String) (s : Settings), ofText text = .ok s →
        s.validate = .ok () ∧ ofText s.toJson.text = .ok s ∧
          (∃ procedure, Registration.Procedure.ofSettings s = .ok procedure) ∧
            ∃ logging, s.logging = .ok logging := by
  refine ⟨fun s => ofText_toJson, fun s given hrange h => ⟨fun text => ofText_of_variant hrange h,
    ofText_text_of_variant hrange h⟩, fun s e => exists_config_of_validate, fun text s htext => ?_⟩
  have hvalid := (exists_of_ofText htext).2
  exact ⟨hvalid, ofText_toJson_of_ofText htext, exists_of_validate hvalid⟩

/-- Settings with a password of a quote, a backslash and a line end. -/
def sampleUser : Settings where
  homeDomain := "ims.org"
  publicUri := "sip:a"
  password := some "\"\\\n"

/-- Their document without the fields that have their default, in another order, and with a note. -/
def sampleFields : List (String × Json) :=
  [("password", .ofString "\"\\\n"), ("public_uri", .ofString "sip:a"),
   ("home_domain", .ofString "ims.org"), ("note", .decimal "1.5e3")]

/-- They are read back from both of these, also with space around it, and they are usable; settings
without a domain are not. -/
theorem user_read_back_in_sample :
    sampleUser.InRange ∧ Variant sampleUser sampleFields ∧
      ofText sampleUser.toJson.text = .ok sampleUser ∧
        ofText (Json.ofFields sampleFields).text = .ok sampleUser ∧
          ofText (" " ++ (Json.ofFields sampleFields).text ++ "\n") = .ok sampleUser ∧
            (∃ procedure, Registration.Procedure.ofSettings sampleUser = .ok procedure) ∧
              ∃ text, ofText ({} : Settings).toJson.text = .error (.config text) := by
  have hrange : sampleUser.InRange := by constructor <;> decide
  have hvalid : sampleUser.validate = .ok () := rfl
  have hnumber : Json.IsNumber ['1'] ['.', '5'] ['e', '3'] :=
    ⟨⟨by decide, by simp⟩, by decide, .digits ⟨by decide, by simp⟩,
      .plain (.inl rfl) ⟨by decide, by simp⟩⟩
  have hwritten : Json.numberOf false ['1'] ['.', '5'] ['e', '3'] = .decimal "1.5e3" := rfl
  have hvariant : Variant sampleUser sampleFields := by
    have hkept := Variant.written.without (s := sampleUser)
      (fun field => !(sampleFields.map Prod.fst).contains field.1)
      (by simp [fields, sampleUser, sampleFields, Json.ofOption])
    exact (hkept.added (show "note" ∉ fieldNames by decide) (.decimal "1.5e3")).reordered
      (List.reverse_perm _).symm
  have hnote : ∀ field ∈ sampleFields, field.1 ∉ fieldNames → field.2.IsProper := by
    simpa [sampleFields, fieldNames] using .decimal (Json.isNumeral_decimal hnumber hwritten)
  have hparse := Json.parse?_of_isSpace (hvariant.isProper hnote)
    (show ∀ c ∈ " ".toList, Json.isSpace c = true by simp [Json.isSpace])
    (show ∀ c ∈ "\n".toList, Json.isSpace c = true by simp [Json.isSpace])
  have hrange' : ({} : Settings).InRange := by constructor <;> decide
  have hinvalid : ({} : Settings).validate = .error (.config "home_domain cannot be empty") := rfl
  obtain ⟨hown, hvariants, herror, husable⟩ := documents_read_back
  obtain ⟨hread, hwrite⟩ := hvariants sampleUser sampleFields hrange hvariant
  have hsettings : ofText sampleUser.toJson.text = .ok sampleUser := by
    rw [hown sampleUser hrange, hvalid]
    rfl
  refine ⟨hrange, hvariant, hsettings, ?_, ?_, (husable _ _ hsettings).2.2.1, ?_⟩
  · rw [hwrite hnote, hvalid]
    rfl
  · rw [hread _ hparse, hvalid]
    rfl
  · obtain ⟨text, htext⟩ := herror _ _ hinvalid
    refine ⟨text, ?_⟩
    rw [hown _ hrange', hinvalid, htext]
    rfl

end ImsClient.Settings
