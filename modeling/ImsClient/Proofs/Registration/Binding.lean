import ImsClient.Proofs.Registration.Information
import ImsClient.Proofs.Registration.Recognition
import Mathlib.Data.List.Find

/-!
# The bindings of other devices

The devices of a user share an identity, so a 200 to a REGISTER lists the bindings of all
of them. A device that has an instance id looks for its own binding by that id, in the
entries of all Contact headers together. Whatever else a registrar lists, in whichever
header and order, and whether there is a header for it at all, does not change what is
granted to this device, nor anything that comes of it later; unless a binding is mistaken
for the own one, because its id becomes the own id when white space and quotes are taken
off it.
-/

namespace ImsClient

namespace Sip.Headers

variable {headers headers' : List Header} {other : String}

/-- The headers of a name are the same if the headers that do not have another name are. -/
theorem filter_isNamed_congr {name : String} (hname : Text.alike name other = false)
    (h : headers.filter (fun header => !header.isNamed other) =
      headers'.filter fun header => !header.isNamed other) :
    headers.filter (Header.isNamed name) = headers'.filter (Header.isNamed name) := by
  have hnames : ∀ header : Header, header.isNamed name = true → header.isNamed other = false := by
    intro header hnamed
    by_contra hother
    rw [Bool.not_eq_false] at hother
    unfold Header.isNamed at hnamed hother
    rw [Text.alike_comm] at hnamed
    rw [Text.alike_trans hnamed hother] at hname
    cases hname
  have hwithin (headers : List Header) : headers.filter (Header.isNamed name) =
      (headers.filter fun header => !header.isNamed other).filter (Header.isNamed name) := by
    rw [List.filter_filter]
    refine List.filter_congr fun header _ => ?_
    cases hnamed : header.isNamed name with
    | false => rfl
    | true => rw [hnames header hnamed]; rfl
  rw [hwithin headers, hwithin headers', h]

/-- What is found among headers that do not have a name is the same if these are. -/
theorem findSome?_congr {α : Type} {select : Header → Option α}
    (hselect : ∀ header, header.isNamed other = true → select header = none)
    (h : headers.filter (fun header => !header.isNamed other) =
      headers'.filter fun header => !header.isNamed other) :
    headers.findSome? select = headers'.findSome? select := by
  have hwithin (headers : List Header) : headers.filterMap select =
      (headers.filter fun header => !header.isNamed other).filterMap select := by
    rw [List.filterMap_filter]
    congr 1
    funext header
    cases hnamed : header.isNamed other with
    | false => rfl
    | true => exact hselect header hnamed
  rw [← List.head?_filterMap, ← List.head?_filterMap, hwithin headers, hwithin headers', h]

end Sip.Headers

namespace Sip.Response

/-- Two responses have the same headers, but for those of a name. -/
def SameBut (name : String) (r r' : Response) : Prop :=
  r.headers.filter (fun header => !header.isNamed name) =
    r'.headers.filter fun header => !header.isNamed name

namespace SameBut

variable {r r' : Response}

/-- All headers of a name other than Contact have the same texts. -/
theorem headerTexts (h : r.SameBut "Contact" r') (name : String)
    (hname : Text.alike name "Contact" = false) : r.headerTexts name = r'.headerTexts name := by
  unfold Response.headerTexts Headers.texts
  rw [Headers.filter_isNamed_congr hname h]

/-- So has the first one. -/
theorem headerText? (h : r.SameBut "Contact" r') (name : String)
    (hname : Text.alike name "Contact" = false) : r.headerText? name = r'.headerText? name :=
  congrArg List.head? (h.headerTexts name hname)

/-- The path of both responses is the same. -/
theorem topVia? (h : r.SameBut "Contact" r') :
    Headers.topVia? r.headers = Headers.topVia? r'.headers := by
  refine Headers.findSome?_congr (fun header hnamed => ?_) h
  cases header with
  | via =>
    have hvia : Text.alike "Via" "Contact" = false := by decide
    cases hvia.symm.trans hnamed
  | _ => rfl

end SameBut

/-- A response with one more Contact header between two parts of its headers. -/
def listing (r : Response) (front : List Header) (entries : List Address) (back : List Header) :
    Response :=
  { r with headers := front ++ .contact entries :: back }

/-- Its entries are those of both parts and, in between, its own. -/
theorem contacts_listing (r : Response) (front back : List Header) (entries : List Address) :
    Headers.contacts (r.listing front entries back).headers =
      Headers.contacts front ++ (entries ++ Headers.contacts back) := by
  simp [Headers.contacts, listing]

/-- Whatever that header lists, all others are the same. -/
theorem sameBut_listing (r : Response) (front back : List Header)
    (entries entries' : List Address) :
    (r.listing front entries back).SameBut "Contact" (r.listing front entries' back) := by
  have hcontact (entries : List Address) : (Header.contact entries).isNamed "Contact" = true := by
    show Text.alike "Contact" "Contact" = true
    decide
  simp [SameBut, listing, List.filter_append, hcontact]

end Sip.Response

namespace Registration

/-- Any procedure reads the same from two responses of status 200 with the same headers but the
Contacts. -/
theorem Procedure.read_of_sameBut {r r' : Sip.Response} (h : r.SameBut "Contact" r')
    (hstatus : r.status = 200) (hstatus' : r'.status = 200) (procedure : Procedure) :
    procedure.read r = procedure.read r' := by
  have hinfo := h.headerText? "Authentication-Info" (by decide)
  induction procedure with
  | giba => rfl
  | digest agent realm => simp only [Procedure.read, hstatus, hstatus', hinfo]
  | faulty writes reads inner ih =>
    rcases reads with _ | ⟨_ | text, reads⟩
    · simp only [Procedure.read, ih]
    · simp only [Procedure.read, ih]
    · rfl

namespace Grant

/-- Nor is what they grant different, if the same binding is taken for the own one. -/
theorem ofResponse_of_sameBut {r r' : Sip.Response} (h : r.SameBut "Contact" r')
    {instanceId : Option String}
    (hown : ownBinding? instanceId (Sip.Headers.contacts r.headers) =
      ownBinding? instanceId (Sip.Headers.contacts r'.headers)) (bound : Endpoint) :
    Grant.ofResponse r instanceId bound = Grant.ofResponse r' instanceId bound := by
  have hexpires := h.headerText? "Expires" (by decide)
  have huris := h.headerTexts "P-Associated-URI" (by decide)
  have hroute := h.headerTexts "Service-Route" (by decide)
  unfold Grant.ofResponse Grant.lifetime? Grant.addresses
  rw [hown, h.topVia?, hexpires, huris, hroute]

/-- Two responses differ at most in the bindings that they list for other devices than the one of an
instance id: their headers but the Contacts are the same, and so are, in this order, the entries of
all Contacts that are listed under the id. -/
structure SameFor (instanceId : String) (r r' : Sip.Response) : Prop where
  others : r.SameBut "Contact" r'
  own : (Sip.Headers.contacts r.headers).filter (isListedUnder instanceId) =
    (Sip.Headers.contacts r'.headers).filter (isListedUnder instanceId)

/-- No entry of a response carries an id that it is not listed under. -/
def Distinct (instanceId : String) (r : Sip.Response) : Prop :=
  ∀ contact ∈ Sip.Headers.contacts r.headers,
    isListedUnder instanceId contact = false → carries instanceId contact = false

variable {instanceId : String} {r r' : Sip.Response}

/-- Where the entries are distinct, the own binding is found among those that are listed under the
id. -/
theorem Distinct.ownBinding?_eq (h : Distinct instanceId r) :
    ownBinding? (some instanceId) (Sip.Headers.contacts r.headers) =
      ((Sip.Headers.contacts r.headers).filter (isListedUnder instanceId)).find?
        (carries instanceId) := by
  rw [List.find?_filter]
  refine List.find?_congr fun contact hcontact => ?_
  cases hlisted : isListedUnder instanceId contact with
  | false => simp [h contact hcontact hlisted]
  | true => simp

/-- A device is granted the same by two responses that differ at most in other bindings, if these
are distinct. -/
theorem SameFor.ofResponse (h : SameFor instanceId r r') (hr : Distinct instanceId r)
    (hr' : Distinct instanceId r') (bound : Endpoint) :
    Grant.ofResponse r (some instanceId) bound = Grant.ofResponse r' (some instanceId) bound :=
  ofResponse_of_sameBut h.others (by rw [hr.ownBinding?_eq, hr'.ownBinding?_eq, h.own]) bound

/-- An entry with quotes around an id, and with more parameters. -/
def rival (instanceId : String) (params : List Sip.Param) : Sip.Address where
  uri := .parts .sip none (.domain "d") none [] []
  params := .quoted "+sip.instance" ("\"" ++ instanceId ++ "\"") :: params

/-- It carries the id. -/
theorem carries_rival (instanceId : String) (params : List Sip.Param) :
    carries instanceId (rival instanceId params) = true := by
  simp [carries, rival, Sip.Address.param?, Sip.Param.find?, Sip.Param.name, Sip.Param.value,
    Text.unquote_quoted]

/-- One of them has another public GRUU than a given one, or one in place of none. -/
theorem exists_rival_gruu_ne (instanceId : String) (gruu : Option String) :
    ∃ params, gruu ≠ (rival instanceId params).param? .plain "pub-gruu" := by
  have hother : Text.alike "+sip.instance" "pub-gruu" = false := by decide
  cases gruu with
  | none =>
    refine ⟨[.token "pub-gruu" "g"], ?_⟩
    simp [rival, Sip.Address.param?, Sip.Param.find?, Sip.Param.name, hother]
  | some gruu =>
    refine ⟨[], ?_⟩
    simp [rival, Sip.Address.param?, Sip.Param.find?, Sip.Param.name, Sip.Uri.params, hother]

/-- An entry may be listed anywhere without any effect exactly if it does not carry the id. -/
theorem ofResponse_listing_iff (instanceId : String) (contact : Sip.Address) :
    (∀ (r : Sip.Response) front before after back bound,
      Grant.ofResponse (r.listing front (before ++ contact :: after) back) (some instanceId)
          bound =
        Grant.ofResponse (r.listing front (before ++ after) back) (some instanceId) bound) ↔
      carries instanceId contact = false := by
  constructor
  · intro hsame
    rw [← Bool.not_eq_true]
    intro hcarries
    -- Behind the entry there is another one that carries the id, but has another GRUU.
    obtain ⟨params, hgruu⟩ := exists_rival_gruu_ne instanceId (contact.param? .plain "pub-gruu")
    have h := congrArg Grant.publicGruu
      (hsame default [] [] [rival instanceId params] [] ⟨.v4 [0, 0, 0, 0], 0⟩)
    simp only [Grant.ofResponse, Sip.Response.contacts_listing, ownBinding?] at h
    simp only [Sip.Headers.contacts, List.flatMap_nil, List.nil_append, List.append_nil,
      List.find?_cons_of_pos hcarries, List.find?_cons_of_pos (carries_rival instanceId params),
      Option.bind_some] at h
    exact hgruu h
  · intro hcarries r front before after back bound
    refine ofResponse_of_sameBut (r.sameBut_listing front back _ _) ?_ bound
    simp [Sip.Response.contacts_listing, ownBinding?, List.find?_append, hcarries]

end Grant

namespace Manager

variable {instanceId : String} {r r' : Sip.Response}

/-- A manager of this device takes both responses the same way. -/
theorem receive_of_sameFor (m : Manager) (now : Instant)
    (hinstance : m.settings.instanceId = some instanceId) (h : Grant.SameFor instanceId r r')
    (hr : Grant.Distinct instanceId r) (hr' : Grant.Distinct instanceId r')
    (hstatus : r.status = 200) (hstatus' : r'.status = 200) :
    m.receive now (.response r) = m.receive now (.response r') := by
  have hgrant : m.takeGrant now r = m.takeGrant now r' := by
    unfold takeGrant
    rw [hinstance, h.ofResponse hr hr', m.procedure.read_of_sameBut h.others hstatus hstatus']
  cases hexchange : m.exchange with
  | none =>
    rw [receive_of_no_exchange now _ hexchange, receive_of_no_exchange now _ hexchange]
  | some exchange =>
    obtain ⟨call, purpose⟩ := exchange
    simp only [receive, hexchange, judgeReply, judge, hstatus, hstatus', hgrant]

/-- **Other devices' bindings do not matter, unless they are mistaken for the own one.** Of two
responses that differ at most in the bindings that are listed under other ids, a device is granted
the same, and its manager goes on in the same way after both if their status is 200, as long as none
of those carries its id when white space and quotes are taken off the id there. A binding under
another id may be listed anywhere without any effect exactly if that is so. -/
theorem foreign_bindings_ignored_iff (instanceId : String) :
    (∀ r r', Grant.SameFor instanceId r r' →
      (∀ contact ∈ Sip.Headers.contacts r.headers ++ Sip.Headers.contacts r'.headers,
        contact.written? .plain "+sip.instance" ≠ some instanceId →
          (contact.written? .plain "+sip.instance").map Text.unquote ≠ some instanceId) →
      (∀ bound, Grant.ofResponse r (some instanceId) bound =
        Grant.ofResponse r' (some instanceId) bound) ∧
      ∀ (m : Manager) now, m.settings.instanceId = some instanceId → r.status = 200 →
        r'.status = 200 →
        m.step now (.replied (.response r)) = m.step now (.replied (.response r'))) ∧
    ∀ contact : Sip.Address, contact.written? .plain "+sip.instance" ≠ some instanceId →
      ((∀ (r : Sip.Response) front before after back bound,
        Grant.ofResponse (r.listing front (before ++ contact :: after) back) (some instanceId)
            bound =
          Grant.ofResponse (r.listing front (before ++ after) back) (some instanceId) bound) ↔
        (contact.written? .plain "+sip.instance").map Text.unquote ≠ some instanceId) := by
  have hlisted (contact : Sip.Address) :
      contact.written? .plain "+sip.instance" ≠ some instanceId ↔
        Grant.isListedUnder instanceId contact = false := decide_eq_false_iff_not.symm
  have hcarries (contact : Sip.Address) :
      (contact.written? .plain "+sip.instance").map Text.unquote ≠ some instanceId ↔
        Grant.carries instanceId contact = false := by
    rw [← Bool.not_eq_true, Grant.carries_iff]
  simp only [hlisted, hcarries]
  refine ⟨fun r r' h hdistinct => ?_, fun contact _ =>
    Grant.ofResponse_listing_iff instanceId contact⟩
  have hr : Grant.Distinct instanceId r := fun contact hcontact =>
    hdistinct contact (List.mem_append_left _ hcontact)
  have hr' : Grant.Distinct instanceId r' := fun contact hcontact =>
    hdistinct contact (List.mem_append_right _ hcontact)
  exact ⟨h.ofResponse hr hr', fun m now hinstance =>
    m.receive_of_sameFor now hinstance h hr hr'⟩

/-- The device of an example. -/
def sampleDevice : String := "<urn:uuid:1>"

/-- The binding of that device. -/
def sampleOwn : Sip.Address :=
  { uri := .parts .sip none (.domain "c") none [] []
    params := [.quoted "+SIP.Instance" sampleDevice, .expires 600,
      .quoted "pub-gruu" "sip:b@a;gr=1"] }

/-- A binding of another device, with some parameters. -/
def sampleForeign (params : List Sip.Param) : Sip.Address :=
  { uri := .parts .sip none (.domain "d") none [.token "+sip.instance" "2"] [], params }

/-- In an example, a registrar lists a binding of another device behind the own one, and then two of
them in headers of their own before it, with an id and a lifetime, and a Contact without any. -/
theorem own_binding_found_in_sample :
    let r : Sip.Response :=
      { status := 200, headers := [.contact [sampleOwn, sampleForeign []], .expires 3600] }
    let r' : Sip.Response :=
      { status := 200
        headers := [.contact [sampleForeign [.expires 60, .quoted "+sip.instance" "3"]],
          .contactStar, .expires 3600, .contact [sampleForeign [.lr], sampleOwn]] }
    let granted := Grant.ofResponse r' (some sampleDevice) sample.bound
    Grant.SameFor sampleDevice r r' ∧ granted.expiry = some 600 ∧
      granted.publicGruu = some "sip:b@a;gr=1" ∧
      Grant.ofResponse r (some sampleDevice) sample.bound = granted := by
  intro r r' granted
  have hsame : Grant.SameFor sampleDevice r r' :=
    ⟨show _ = _ by decide +kernel, by decide +kernel⟩
  obtain ⟨hgranted, -⟩ :=
    (foreign_bindings_ignored_iff sampleDevice).1 r r' hsame (by decide +kernel)
  exact ⟨hsame, by decide +kernel, by decide +kernel, hgranted sample.bound⟩

/-- But if the other id is the own one with a blank before it, what is granted is the lifetime of
the other binding and no GRUU. -/
theorem lookalike_binding_taken_in_sample :
    let r : Sip.Response :=
      { status := 200, headers := [.expires 3600, .contact [sampleOwn]] }
    let r' : Sip.Response :=
      { status := 200
        headers := [.expires 3600,
          .contact [sampleForeign [.quoted "+sip.instance" (" " ++ sampleDevice), .expires 60],
            sampleOwn]] }
    Grant.SameFor sampleDevice r r' ∧
      (Grant.ofResponse r (some sampleDevice) sample.bound).expiry = some 600 ∧
      (Grant.ofResponse r (some sampleDevice) sample.bound).publicGruu = some "sip:b@a;gr=1" ∧
      (Grant.ofResponse r' (some sampleDevice) sample.bound).expiry = some 60 ∧
      (Grant.ofResponse r' (some sampleDevice) sample.bound).publicGruu = none := by
  refine ⟨⟨show _ = _ by decide +kernel, by decide +kernel⟩, ?_⟩
  decide +kernel

end Manager

/-- Two events differ at most in the bindings that a 200 lists for other devices, none of which is
mistaken for that of this one. -/
inductive Event.SameFor (instanceId : String) : Event → Event → Prop
  | same (event : Event) : SameFor instanceId event event
  | accepted {r r' : Sip.Response} (h : Grant.SameFor instanceId r r')
      (hr : Grant.Distinct instanceId r) (hr' : Grant.Distinct instanceId r')
      (hstatus : r.status = 200) (hstatus' : r'.status = 200) :
      SameFor instanceId (.replied (.response r)) (.replied (.response r'))

namespace Manager

/-- Two runs at the same points of time differ at most in the bindings that 200s list for other
devices. -/
abbrev RunsAlike (instanceId : String) : History → History → Prop :=
  List.Forall₂ fun (now, event) (now', event') => now = now' ∧ event.SameFor instanceId event'

/-- **Nor do they matter to a whole run.** A new manager of a device ends up in the same state and
has the same effects, whichever bindings the registrar lists for other devices along the run. -/
theorem IsNew.run_of_runsAlike {m : Manager} (hm : m.IsNew) {instanceId : String}
    (hinstance : m.settings.instanceId = some instanceId) {history history' : History}
    (h : RunsAlike instanceId history history') :
    m.after history = m.after history' ∧ m.trace history = m.trace history' := by
  suffices hrest : ∀ done : History,
      (m.after done).after history = (m.after done).after history' ∧
        (m.after done).trace history = (m.after done).trace history' from hrest []
  -- On the rest of both runs; they have the same part behind them.
  induction h with
  | nil => exact fun done => ⟨rfl, rfl⟩
  | @cons entry entry' rest rest' hentry _ ih =>
    obtain ⟨now, event⟩ := entry
    obtain ⟨now', event'⟩ := entry'
    obtain ⟨rfl, hevent⟩ := hentry
    intro done
    have hstep : (m.after done).step now event = (m.after done).step now event' := by
      cases hevent with
      | same => rfl
      | accepted h hr hr' hstatus hstatus' =>
        refine (m.after done).receive_of_sameFor now ?_ h hr hr' hstatus hstatus'
        rw [(hm.expiry_after done).1, hinstance]
    obtain ⟨hafter, htrace⟩ := ih (done ++ [(now, event)])
    rw [after_concat, hstep] at hafter htrace
    simp only [after_cons, trace, along_cons, hstep] at htrace ⊢
    exact ⟨hafter, by rw [htrace]⟩

end Manager

end Registration

end ImsClient
