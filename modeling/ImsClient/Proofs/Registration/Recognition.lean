import ImsClient.Proofs.Dialog.Origin
import ImsClient.Proofs.Places
import ImsClient.Proofs.Text.Numerals
import ImsClient.Proofs.Text.Quotes
import ImsClient.Registration.Grant

/-!
# Recognising the own binding

A REGISTER writes the instance id of a device between quotes, as it is, and a registrar lists
the binding under the id that was written. The reader of that list takes white space and quotes
off every value that it looks up, also off one that was unquoted before. So a device knows its
binding again if its id has neither at its ends, and loses it otherwise; and it takes the binding
of another device for its own if white space or quotes around the id are all that tells the two
apart.
-/

namespace ImsClient

namespace Sip.Address

variable {names : Naming} {address : Address} {name : String}

/-- The parameter that a name stands for: the first one of the address or else of its URI. -/
def named? (address : Address) (name : String) : Option Param :=
  Param.find? (address.params ++ address.uri.params) name

/-- Its value as it was written; a parameter without a value has the empty one. -/
def written? (names : Naming) (address : Address) (name : String) : Option String :=
  (address.named? name).map fun param => (param.value names).getD ""

/-- What is looked up is what was written, without white space and quotes around it. -/
theorem param?_eq (names : Naming) (address : Address) (name : String) :
    address.param? names name = (address.written? names name).map Text.unquote := by
  have hempty : Text.unquote "" = "" := by decide
  unfold param? written? named?
  rw [Option.map_map]
  congr 1
  funext param
  cases h : param.value names with
  | none => simp [h, hempty]
  | some value => simp [h]

/-- A lifetime that was granted as a number is the lifetime that is read. -/
theorem expires?_of_typed {seconds : Nat} (h : address.named? "expires" = some (.expires seconds))
    (hmax : seconds ≤ Text.maxSeconds) : address.expires? names = some seconds := by
  have hdigits : Text.IsBare (toString seconds) := by
    have hall : ∀ c ∈ (toString seconds).toList, c.isDigit = true := by
      simpa using List.all_eq_true.mp (Text.all_isDigit_toDigits seconds)
    refine ⟨fun c hc => Text.isBlank_of_isDigit (hall c (List.mem_of_head? hc)),
      fun c hc => Text.isBlank_of_isDigit (hall c (List.mem_of_getLast? hc)), ?_⟩
    intro inside hquoted
    have hquote := hall '"' (by rw [hquoted]; simp)
    exact absurd hquote (by decide)
  have hread : address.param? names "expires" = some (toString seconds) := by
    rw [param?_eq, written?, h, Option.map_some, Option.map_some]
    exact congrArg some ((Text.unquote_eq_self_iff _).mpr hdigits)
  rw [expires?, hread, Option.bind_some, Text.deltaSeconds?_toString, Nat.min_eq_left hmax]

end Sip.Address

namespace Registration.Grant

/-- An entry carries an id if that is what is read of the id that was written. -/
theorem carries_iff (instanceId : String) (contact : Sip.Address) :
    carries instanceId contact = true ↔
      (contact.written? .plain "+sip.instance").map Text.unquote = some instanceId := by
  rw [carries, decide_eq_true_iff, Sip.Address.param?_eq]

/-- Whether an entry is listed under an id: that is the id that was written. -/
def isListedUnder (instanceId : String) (contact : Sip.Address) : Bool :=
  contact.written? .plain "+sip.instance" = some instanceId

/-- The binding that a registrar lists for a device: the first one under its id; for a device
without an id, the first. -/
def listed? (instanceId : Option String) (contacts : List Sip.Address) : Option Sip.Address :=
  match instanceId with
  | some instanceId => contacts.find? (isListedUnder instanceId)
  | none => contacts.head?

/-- An entry that is listed under an id carries it exactly if the id is bare. -/
theorem carries_iff_of_listed {instanceId : String} {contact : Sip.Address}
    (h : isListedUnder instanceId contact = true) :
    carries instanceId contact = true ↔ Text.IsBare instanceId := by
  rw [carries_iff, of_decide_eq_true h, Option.map_some, Option.some.injEq,
    Text.unquote_eq_self_iff]

/-- A device knows its binding again among those that are listed: its id is bare, should it be
listed under it, and no entry before has an id that becomes the own one without the white space and
the quotes around it. -/
def Recognises (instanceId : String) (contacts : List Sip.Address) : Prop :=
  ((listed? (some instanceId) contacts).isSome = true → Text.IsBare instanceId) ∧
    ∀ other ∈ contacts.takeWhile fun contact => !isListedUnder instanceId contact,
      (other.written? .plain "+sip.instance").map Text.unquote ≠ some instanceId

/-- **What a device takes for its binding** is the one that is listed for it exactly if it knows it
again. -/
theorem ownBinding?_eq_listed?_iff (instanceId : String) (contacts : List Sip.Address) :
    ownBinding? (some instanceId) contacts = listed? (some instanceId) contacts ↔
      Recognises instanceId contacts := by
  refine find?_eq_find?_iff.trans (and_congr ?_ ?_)
  · rw [Option.isSome_iff_exists, forall_exists_index]
    refine forall_congr' fun own => forall_congr' fun hfound => ?_
    exact carries_iff_of_listed (List.find?_some hfound)
  · refine forall₂_congr fun other _ => ?_
    rw [← Bool.not_eq_true, carries_iff]

/-- **The own binding is found if the id has no white space and no quotes around it.** A device
registers under an id, and a 200 lists some binding under the id that its REGISTER wrote, with a
positive lifetime, and any others under other ids. The device takes that binding for its own exactly
if its id is bare, and no binding before carries it when white space and quotes are taken off the id
there. Then it is granted the lifetime and the GRUUs of that binding, whatever else the response
says. -/
theorem own_binding_taken_iff {dialog : Dialog} {bound : Endpoint} {expiry : Nat}
    {instanceId : String} {featureTags : List String} {supply supply' : Supply}
    {request : Sip.Request} {response : Sip.Response} {before after : List Sip.Address}
    {own : Sip.Address} {seconds : Nat}
    (hmade : dialog.register bound expiry (some instanceId) featureTags supply =
      .ok (request, supply'))
    (hlisted : Sip.Headers.contacts response.headers = before ++ own :: after)
    (hown : ∃ ours ∈ Sip.Headers.contacts request.headers,
      own.named? "+sip.instance" = ours.named? "+sip.instance")
    (hothers : ∀ other ∈ before ++ after,
      other.written? .plain "+sip.instance" ≠ some instanceId)
    (hexpires : own.named? "expires" = some (.expires seconds))
    (hpos : 0 < seconds) (hmax : seconds ≤ Text.maxSeconds) :
    let taken := ownBinding? (some instanceId) (Sip.Headers.contacts response.headers)
    (taken = some own ↔ Text.IsBare instanceId ∧ ∀ other ∈ before,
      (other.written? .plain "+sip.instance").map Text.unquote ≠ some instanceId) ∧
    (taken = some own → ∀ bound,
      let granted := ofResponse response (some instanceId) bound
      granted.expiry = some seconds ∧ granted.publicGruu = own.param? .plain "pub-gruu" ∧
        granted.tempGruu = own.param? .plain "temp-gruu") := by
  intro taken
  obtain ⟨ours, hours, hsame⟩ := hown
  rw [Dialog.contacts_of_register hmade, List.mem_singleton] at hours
  have hnamed : own.named? "+sip.instance" = some (.quoted "+sip.instance" instanceId) := by
    rw [hsame, hours]
    simp [Sip.Address.named?, Sip.Param.find?, Sip.Param.name]
  have hwritten : own.written? .plain "+sip.instance" = some instanceId := by
    simp [Sip.Address.written?, hnamed, Sip.Param.value]
  have hlist : isListedUnder instanceId own = true := decide_eq_true hwritten
  have hother (other : Sip.Address) (hmem : other ∈ before) :
      isListedUnder instanceId other = false :=
    decide_eq_false (hothers other (List.mem_append_left after hmem))
  have hfound : listed? (some instanceId) (before ++ own :: after) = some own := by
    rw [listed?, List.find?_append, List.find?_eq_none.mpr fun other hmem => by
      simp [hother other hmem], Option.none_or, List.find?_cons_of_pos hlist]
  have hahead : (before ++ own :: after).takeWhile
      (fun contact => !isListedUnder instanceId contact) = before := by
    rw [List.takeWhile_append_of_pos fun other hmem => by simp [hother other hmem],
      List.takeWhile_cons_of_neg (by simp [hlist]), List.append_nil]
  constructor
  · have hiff := ownBinding?_eq_listed?_iff instanceId (before ++ own :: after)
    rw [hfound] at hiff
    simpa only [taken, hlisted, Recognises, hfound, hahead, Option.isSome_some, true_implies]
      using hiff
  · intro htaken bound granted
    have hexpiry : own.expires? .plain = some seconds :=
      Sip.Address.expires?_of_typed hexpires hmax
    refine ⟨?_, ?_, ?_⟩
    · show lifetime? taken response = some seconds
      simp [lifetime?, htaken, hexpiry, hpos]
    · show taken.bind _ = _
      rw [htaken, Option.bind_some]
    · show taken.bind _ = _
      rw [htaken, Option.bind_some]

/-- Where the device of the examples is bound. -/
def sampleBound : Endpoint := ⟨.v4 [10, 0, 0, 2], 5060⟩

/-- Its REGISTER under an id. -/
def sampleRegister (instanceId : String) : Sip.Request :=
  match Dialog.sample.register sampleBound 3600 (some instanceId) ["+g.oma.sip-im"] {} with
  | .ok (request, _) => request
  | .error _ => default

/-- Its binding as the registrar lists it: as it was written, with a lifetime and a GRUU. -/
def sampleListed (instanceId : String) : Sip.Address where
  uri := .parts .sip none (.address sampleBound.ip) (some 5060) [] []
  params := [.quoted "+sip.instance" instanceId, .flag "+g.oma.sip-im", .expires 600,
    .quoted "pub-gruu" "sip:b@a;gr=1"]

/-- The binding of another device. -/
def sampleOther : Sip.Address where
  uri := .parts .sip none (.domain "d") none [] []
  params := [.expires 60, .quoted "+sip.instance" "<urn:uuid:2>"]

/-- A 200 that lists both. -/
def sampleOk (instanceId : String) : Sip.Response where
  status := 200
  headers := [.expires 3600, .contact [sampleOther, sampleListed instanceId]]

/-- In the example, the device finds its binding behind the one of another device. -/
theorem bare_id_recognised_in_sample :
    let id := "<urn:uuid:1>"
    let granted := ofResponse (sampleOk id) (some id) sampleBound
    Dialog.sample.register sampleBound 3600 (some id) ["+g.oma.sip-im"] {} =
        .ok (sampleRegister id, { taken := 1 }) ∧
      Text.IsBare id ∧
      ownBinding? (some id) (Sip.Headers.contacts (sampleOk id).headers) =
        some (sampleListed id) ∧
      granted.expiry = some 600 ∧ granted.publicGruu = some "sip:b@a;gr=1" := by
  intro id granted
  have hmade : Dialog.sample.register sampleBound 3600 (some id) ["+g.oma.sip-im"] {} =
      .ok (sampleRegister id, { taken := 1 }) := by decide +kernel
  have hbare : Text.IsBare id := (Text.unquote_eq_self_iff id).mp (by decide +kernel)
  have hown : ∃ ours ∈ Sip.Headers.contacts (sampleRegister id).headers,
      (sampleListed id).named? "+sip.instance" = ours.named? "+sip.instance" := by decide +kernel
  have hothers : ∀ other ∈ [sampleOther] ++ ([] : List Sip.Address),
      other.written? .plain "+sip.instance" ≠ some id := by decide +kernel
  have hlisted : Sip.Headers.contacts (sampleOk id).headers =
      [sampleOther] ++ sampleListed id :: [] := rfl
  have hexpires : (sampleListed id).named? "expires" = some (.expires 600) := by decide +kernel
  obtain ⟨htaken, hgranted⟩ :=
    own_binding_taken_iff hmade hlisted hown hothers hexpires (by decide) (by decide)
  have hfound := htaken.mpr ⟨hbare, by decide +kernel⟩
  obtain ⟨hexpiry, hgruu, -⟩ := hgranted hfound sampleBound
  exact ⟨hmade, hbare, hfound, hexpiry, hgruu.trans (by decide +kernel)⟩

/-- But if its id has quotes of its own, it does not: it is granted the lifetime of the response in
place of the one of its binding, and no GRUU. -/
theorem quoted_id_lost_in_sample :
    let id := "\"<urn:uuid:1>\""
    let granted := ofResponse (sampleOk id) (some id) sampleBound
    Dialog.sample.register sampleBound 3600 (some id) ["+g.oma.sip-im"] {} =
        .ok (sampleRegister id, { taken := 1 }) ∧
      (∃ ours ∈ Sip.Headers.contacts (sampleRegister id).headers,
        (sampleListed id).named? "+sip.instance" = ours.named? "+sip.instance") ∧
      sampleOther.written? .plain "+sip.instance" ≠ some id ∧
      (sampleListed id).named? "expires" = some (.expires 600) ∧
      granted.expiry = some 3600 ∧ granted.publicGruu = none := by
  decide +kernel

end Registration.Grant

end ImsClient
