import ImsClient.Proofs.Dialog.Request

/-!
# What responses carry

A response to a request repeats the headers of the request that name the request and
the path that it took, in their order, and names this side once, by the tag of the
dialog. So it belongs to the request that it responds to: it has its Call-ID and its
number.
-/

namespace ImsClient

/-- A response that is given a body keeps its other headers. -/
theorem Sip.Response.filter_withBody (response : Sip.Response) (body : Sip.Body)
    {p : Sip.Header → Bool} (hp : ∀ header, p header = true → header.name ≠ "Content-Length") :
    (response.withBody body).headers.filter p = response.headers.filter p := by
  have hlength : p (.contentLength body.size) = false :=
    Bool.eq_false_iff.mpr fun htrue => hp _ htrue rfl
  simp only [withBody, Headers.withLength]
  rw [List.filter_append, List.filter_cons_of_neg (by simp [hlength]), List.filter_nil,
    List.append_nil, List.filter_filter]
  refine List.filter_congr fun header _ => ?_
  cases hheader : p header with
  | false => rfl
  | true => simpa using hp header hheader

namespace Dialog

/-- The headers that are repeated have these names. -/
theorem name_ne_of_isEchoed {header : Sip.Header} {name : String}
    (hname : name ∉ ["Via", "From", "Call-ID", "CSeq"]) (hechoed : isEchoed header = true) :
    header.name ≠ name := by
  rintro rfl
  cases header with
  | via | sender | callId | cSeq => simp [Sip.Header.name] at hname
  | raw | expires | contact | contactStar | recipient | maxForwards | route | contentLength =>
    cases hechoed

/-- A response is one that a dialog gives to a request. -/
structure Echoes (dialog : Dialog) (request : Sip.Request) (response : Sip.Response) : Prop where
  /-- It repeats the Via, From, Call-ID and CSeq headers, as they are and in order. -/
  echoed : response.headers.filter isEchoed = request.headers.filter isEchoed
  /-- It has one To header, with the tag of this side. -/
  recipient : ∃ us, response.headers.filter (·.name = "To") = [.recipient us] ∧
    us.tag? = some dialog.localTag

namespace Echoes

variable {dialog : Dialog} {request : Sip.Request} {response : Sip.Response}

/-- What is selected of the headers that are repeated is the same in the request and the
response. -/
theorem findSome? {α : Type} {select : Sip.Header → Option α} (h : dialog.Echoes request response)
    (hselect : ∀ header, isEchoed header = false → select header = none) :
    response.headers.findSome? select = request.headers.findSome? select := by
  have hskip (headers : List Sip.Header) :
      (headers.filter isEchoed).findSome? select = headers.findSome? select := by
    induction headers with
    | nil => rfl
    | cons header headers ih =>
      cases hechoed : isEchoed header with
      | true => rw [List.filter_cons_of_pos hechoed, List.findSome?_cons, List.findSome?_cons, ih]
      | false =>
        rw [List.filter_cons_of_neg (by simp [hechoed]), ih, List.findSome?_cons,
          hselect header hechoed]
  rw [← hskip, h.echoed, hskip]

/-- The response has the Call-ID of the request. -/
theorem callId? (h : dialog.Echoes request response) :
    Sip.Headers.callId? response.headers = request.callId? :=
  h.findSome? fun header hechoed => by
    cases header with
    | via | sender | callId | cSeq => cases hechoed
    | raw | expires | contact | contactStar | recipient | maxForwards | route | contentLength => rfl

/-- It has the number of the request. -/
theorem cSeq? (h : dialog.Echoes request response) :
    Sip.Headers.cSeq? response.headers = request.cSeq? :=
  h.findSome? fun header hechoed => by
    cases header with
    | via | sender | callId | cSeq => cases hechoed
    | raw | expires | contact | contactStar | recipient | maxForwards | route | contentLength => rfl

/-- A header that is neither repeated nor a To header changes nothing of this. -/
theorem add (h : dialog.Echoes request response) {header : Sip.Header}
    (hechoed : isEchoed header = false) (hname : header.name ≠ "To") :
    dialog.Echoes request (response.add header) where
  echoed := by
    rw [Sip.Response.add, List.filter_append, h.echoed,
      List.filter_cons_of_neg (by simp [hechoed])]
    exact List.append_nil _
  recipient := by
    obtain ⟨us, hus, htag⟩ := h.recipient
    refine ⟨us, ?_, htag⟩
    rw [Sip.Response.add, List.filter_append, hus, List.filter_cons_of_neg (by simpa using hname)]
    exact List.append_nil _

/-- Nor does a body. -/
theorem withBody (h : dialog.Echoes request response) (body : Sip.Body) :
    dialog.Echoes request (response.withBody body) where
  echoed := by
    rw [response.filter_withBody body, h.echoed]
    exact fun header => name_ne_of_isEchoed (by decide)
  recipient := by
    obtain ⟨us, hus, htag⟩ := h.recipient
    refine ⟨us, ?_, htag⟩
    rw [response.filter_withBody body, hus]
    intro header hname
    simp [of_decide_eq_true hname]

end Echoes

variable {dialog : Dialog} {request : Sip.Request} {response : Sip.Response}

/-- A response that can be built has its status and is one that the dialog gives. -/
theorem respond_spec {status : Nat} (h : dialog.respond request status = .ok response) :
    response.status = status ∧ dialog.Echoes request response := by
  unfold respond at h
  cases hstatus : Sip.isStatusCode status with
  | false => simp [hstatus, throw, throwThe, MonadExceptOf.throw, bind, Except.bind] at h
  | true =>
    cases hus : uri dialog.localParty with
    | error e => simp [hstatus, party, hus, bind, Except.bind] at h
    | ok us =>
      simp only [hstatus, party, hus, bind, Except.bind, pure, Except.pure] at h
      cases h
      have hnone : (request.headers.filter isEchoed).filter (·.name = "To") = [] := by
        refine List.filter_eq_nil_iff.mpr fun header hheader => ?_
        simpa using name_ne_of_isEchoed (by decide) (List.mem_filter.mp hheader).2
      have hechoed : (request.headers.filter isEchoed).filter isEchoed =
          request.headers.filter isEchoed := by
        rw [List.filter_filter]
        exact List.filter_congr fun header _ => Bool.and_self _
      refine ⟨rfl, ?_, { uri := us, params := [.tag dialog.localTag] }, ?_, rfl⟩
      · rw [List.filter_append, hechoed]
        exact List.append_nil _
      · rw [List.filter_append, hnone, List.nil_append]
        rfl

/-- The 200 that accepts a re-INVITE, too. -/
theorem accept_spec {bound : Endpoint} {featureTags : List String} {content : String}
    (h : dialog.accept request bound featureTags content = .ok response) :
    response.status = 200 ∧ dialog.Echoes request response := by
  unfold accept at h
  cases hmade : dialog.respond request 200 with
  | error e =>
    rw [hmade] at h
    cases h
  | ok base =>
    rw [hmade] at h
    cases h
    obtain ⟨hstatus, hechoes⟩ := respond_spec hmade
    refine ⟨hstatus, ((hechoes.add rfl ?_).add rfl ?_).withBody _⟩
    · simp [contact, Sip.Header.name]
    · rw [Sip.Header.name_ofText]
      decide

end Dialog

end ImsClient
