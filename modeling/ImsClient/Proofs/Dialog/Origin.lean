import ImsClient.Proofs.Dialog.Request

/-!
# Where a request comes from

A request says twice where the client that built it is bound: in the hop of its first Via, and,
if it registers, in the one binding that its Contact lists, under the id of the device.
-/

namespace ImsClient

namespace Sip.Request

variable {request : Request} {hops : List Hop}

/-- One more header, behind the others, leaves the first Via. -/
theorem topVia?_add (header : Header) (h : Headers.topVia? request.headers = some hops) :
    Headers.topVia? (request.add header).headers = some hops :=
  Headers.findSome?_append_of_some [header] h

/-- So does a body. -/
theorem topVia?_withBody (body : Body) (h : Headers.topVia? request.headers = some hops) :
    Headers.topVia? (request.withBody body).headers = some hops := by
  have hname : (Header.contentLength body.size).name ≠ "Via" := by
    rw [Header.name]
    decide
  refine Eq.trans (Headers.findSome?_replace "Via" ?_ hname) h
  rintro (_ | _) _ hother <;> first | rfl | cases hother

end Sip.Request

namespace Dialog

/-- A request is one that a client builds of a dialog where it is bound. -/
inductive Builds (dialog : Dialog) (bound : Endpoint) (request : Sip.Request) : Prop
  | register {expiry : Nat} {instanceId : Option String} {featureTags : List String}
      {supply supply' : Supply}
      (h : dialog.register bound expiry instanceId featureTags supply = .ok (request, supply'))
  | reinvite {featureTags : List String} {content : String} {supply supply' : Supply}
      (h : dialog.reinvite bound featureTags content supply = .ok (request, supply'))
  | ack {supply supply' : Supply} (h : dialog.ack bound supply = .ok (request, supply'))

variable {dialog : Dialog} {bound : Endpoint} {made : Sip.Request}

/-- The first Via of a request that was built has the hop of this client, and no other. -/
theorem topVia?_of_request {method : Sip.Method} {supply supply' : Supply}
    (hmade : request method dialog bound supply = .ok (made, supply')) :
    ∃ branch, Sip.Headers.topVia? made.headers = some [hop bound branch] := by
  rw [request_eq] at hmade
  cases hread : dialog.read with
  | error e =>
    rw [hread] at hmade
    cases hmade
  | ok reading =>
    rw [hread] at hmade
    cases hmade
    exact ⟨_, rfl⟩

/-- Every such request has it. -/
theorem Builds.topVia? (h : dialog.Builds bound made) :
    ∃ branch, Sip.Headers.topVia? made.headers = some [hop bound branch] := by
  cases h with
  | @register expiry instanceId featureTags supply supply' h =>
    unfold Dialog.register at h
    cases hbase : request .register dialog bound supply with
    | error e =>
      rw [hbase] at h
      cases h
    | ok base =>
      rw [hbase] at h
      cases h
      obtain ⟨branch, hvia⟩ := topVia?_of_request hbase
      exact ⟨branch, Sip.Request.topVia?_add _
        (Sip.Request.topVia?_add _ (Sip.Request.topVia?_add _ hvia))⟩
  | @reinvite featureTags content supply supply' h =>
    unfold Dialog.reinvite at h
    cases hbase : request .invite dialog bound supply with
    | error e =>
      rw [hbase] at h
      cases h
    | ok base =>
      rw [hbase] at h
      obtain ⟨branch, hvia⟩ := topVia?_of_request hbase
      have hoffer := Sip.Request.topVia?_withBody (.text content)
        (Sip.Request.topVia?_add (.ofText "Content-Type" sessionDescription)
          (Sip.Request.topVia?_add (contact bound none featureTags) hvia))
      by_cases hplain : featureTags.isEmpty = true
      · simp only [hplain, if_true, bind, Except.bind] at h
        cases h
        exact ⟨branch, hoffer⟩
      · simp only [hplain, bind, Except.bind] at h
        cases h
        exact ⟨branch, Sip.Request.topVia?_add _ hoffer⟩
  | ack h => exact topVia?_of_request h

/-- A REGISTER lists one binding, under the id of the device and with its feature tags. -/
theorem contacts_of_register {expiry : Nat} {instanceId : Option String}
    {featureTags : List String} {supply supply' : Supply}
    (hmade : dialog.register bound expiry instanceId featureTags supply = .ok (made, supply')) :
    Sip.Headers.contacts made.headers =
      [{ uri := .parts .sip none (.address bound.ip) (some bound.port) [] []
         params := (instanceId.map (Sip.Param.quoted "+sip.instance")).toList ++
           featureTags.map featureParam }] := by
  unfold register at hmade
  rw [request_eq] at hmade
  cases hread : dialog.read with
  | error e =>
    rw [hread] at hmade
    cases hmade
  | ok reading =>
    rw [hread] at hmade
    cases hmade
    simp [Sip.Headers.contacts, Sip.Request.add, Reading.request, contact, Sip.Header.ofText,
      List.flatMap_map]

/-- A dialog for the examples. -/
def sample : Dialog where
  callId := .given "c"
  target := "sip:a"
  localParty := "sip:b@a"
  remoteParty := "sip:b@a"
  localTag := .given "t"

end Dialog

end ImsClient
