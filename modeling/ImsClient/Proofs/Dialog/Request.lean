import ImsClient.Dialog.Message

/-!
# What requests carry

Every request that is built of a dialog carries its Call-ID, its number, the tag of
this side and the place that it leads to. Headers that are added later, credentials
among them, leave these as they are. Whether a request can be built at all depends
only on the texts that the dialog holds, so a dialog of which one request was built
gives all later ones.
-/

namespace ImsClient

namespace Sip

/-- The name of a header of plain text is in canonical form. -/
theorem Header.name_ofText (name value : String) :
    (Header.ofText name value).name = HeaderName.canonical name := rfl

namespace Headers

variable {α : Type} {select : Header → Option α} {headers : List Header} {header : Header}

/-- A header in place of those of its name leaves what is selected of headers of another name. -/
theorem findSome?_replace (name : String)
    (hselect : ∀ other x, select other = some x → other.name = name) (hname : header.name ≠ name) :
    (replace header headers).findSome? select = headers.findSome? select := by
  have hheader : select header = none := by
    cases hfound : select header with
    | none => rfl
    | some x => exact absurd (hselect header x hfound) hname
  unfold replace
  rw [List.findSome?_append, List.findSome?_singleton, hheader, Option.or_none]
  induction headers with
  | nil => rfl
  | cons first rest ih =>
    rw [List.findSome?_cons]
    cases hfirst : select first with
    | some x =>
      have hne : first.name ≠ header.name := fun h => hname (h ▸ hselect first x hfirst)
      rw [List.filter_cons_of_pos (by simpa using hne), List.findSome?_cons, hfirst]
    | none =>
      dsimp only
      rw [List.filter_cons]
      split
      · rw [List.findSome?_cons, hfirst]
        exact ih
      · exact ih

/-- A header in place of those of its name is the only one with a property that no header of another
name has. -/
theorem filter_replace {p : Header → Bool} (hheader : p header = true)
    (hothers : ∀ other ∈ headers, other.name ≠ header.name → p other = false) :
    (replace header headers).filter p = [header] := by
  have hnone : (headers.filter fun other => other.name != header.name).filter p = [] := by
    refine List.filter_eq_nil_iff.mpr fun other hother => ?_
    obtain ⟨hmem, hname⟩ := List.mem_filter.mp hother
    rw [hothers other hmem (bne_iff_ne.mp hname)]
    exact Bool.false_ne_true
  unfold replace
  rw [List.filter_append, hnone, List.nil_append, List.filter_cons_of_pos hheader, List.filter_nil]

/-- More headers behind the others leave what was found. -/
theorem findSome?_append_of_some {x : α} (more : List Header)
    (hfound : headers.findSome? select = some x) :
    (headers ++ more).findSome? select = some x := by
  rw [List.findSome?_append, hfound, Option.some_or]

/-- The tag of the first From header that has one. -/
def senderTag? (headers : List Header) : Option Identifier :=
  headers.findSome? fun
    | .sender party => party.tag?
    | _ => none

/-- The lifetime of the first Expires header. -/
def expires? (headers : List Header) : Option Nat :=
  headers.findSome? fun
    | .expires seconds => some seconds
    | _ => none

end Headers

namespace Request

/-- The tag of the sender. -/
def senderTag? (request : Request) : Option Identifier := Headers.senderTag? request.headers

/-- The lifetime that a request asks for. -/
def expires? (request : Request) : Option Nat := Headers.expires? request.headers

end Request

end Sip

namespace Dialog

/-- A request is one of a dialog at its present number. -/
structure Carries (dialog : Dialog) (request : Sip.Request) : Prop where
  callId : request.callId? = some dialog.callId
  cSeq : request.cSeq? = some dialog.cSeq
  sender : request.senderTag? = some dialog.localTag
  uri : Sip.Uri.ofText? dialog.target = some request.uri

/-- The names of the headers by which a request is one of a dialog. -/
def identifying : List String := ["Call-ID", "CSeq", "From"]

namespace Carries

variable {dialog : Dialog} {request : Sip.Request}

/-- One more header, behind the others, does not change which dialog a request is one of. -/
theorem add (h : dialog.Carries request) (header : Sip.Header) :
    dialog.Carries (request.add header) where
  callId := Sip.Headers.findSome?_append_of_some [header] h.callId
  cSeq := Sip.Headers.findSome?_append_of_some [header] h.cSeq
  sender := Sip.Headers.findSome?_append_of_some [header] h.sender
  uri := h.uri

/-- A header in place of others does not change it either, unless it has one of their names. -/
theorem replace (h : dialog.Carries request) {header : Sip.Header}
    (hname : header.name ∉ identifying) : dialog.Carries (request.replace header) := by
  simp only [identifying, List.mem_cons, List.not_mem_nil, or_false, not_or] at hname
  obtain ⟨hcallId, hcSeq, hsender⟩ := hname
  refine ⟨?_, ?_, ?_, h.uri⟩
  · refine Eq.trans (Sip.Headers.findSome?_replace "Call-ID" ?_ hcallId) h.callId
    rintro (_ | _) _ hother <;> first | rfl | cases hother
  · refine Eq.trans (Sip.Headers.findSome?_replace "CSeq" ?_ hcSeq) h.cSeq
    rintro (_ | _) _ hother <;> first | rfl | cases hother
  · refine Eq.trans (Sip.Headers.findSome?_replace "From" ?_ hsender) h.sender
    rintro (_ | _) _ hother <;> first | rfl | cases hother

/-- Nor does a body. -/
theorem withBody (h : dialog.Carries request) (body : Sip.Body) :
    dialog.Carries (request.withBody body) := by
  have hlength := h.replace (show (Sip.Header.contentLength body.size).name ∉ identifying by
    rw [Sip.Header.name]
    decide)
  exact ⟨hlength.callId, hlength.cSeq, hlength.sender, h.uri⟩

end Carries

/-! ### Building -/

/-- What the texts of a dialog are read as. -/
structure Reading where
  target : Sip.Uri
  us : Sip.Uri
  them : Sip.Uri
  route : List (List Sip.Address)

/-- Reads the texts that a request needs. -/
def read (dialog : Dialog) : Except Error Reading := do
  return { target := ← uri dialog.target, us := ← uri dialog.localParty,
           them := ← uri dialog.remoteParty, route := ← dialog.route.mapM routeEntries }

/-- The request of a dialog whose texts were read. -/
def Reading.request (reading : Reading) (method : Sip.Method) (dialog : Dialog) (bound : Endpoint)
    (branch : Identifier) : Sip.Request where
  method
  uri := reading.target
  headers :=
    [.via [hop bound branch], .maxForwards 70,
      .sender { uri := reading.us, params := [.tag dialog.localTag] },
      .recipient { uri := reading.them, params := (dialog.remoteTag.map Sip.Param.tag).toList },
      .callId dialog.callId, .cSeq dialog.cSeq method] ++ reading.route.map Sip.Header.route

/-- A request is built if the texts can be read. -/
theorem request_eq (method : Sip.Method) (dialog : Dialog) (bound : Endpoint) (supply : Supply) :
    request method dialog bound supply =
      dialog.read.map fun reading =>
        (reading.request method dialog bound (supply.draw .branch).1,
          (supply.draw .branch).2) := by
  unfold request read party
  cases uri dialog.target with
  | error e => rfl
  | ok target =>
    cases uri dialog.localParty with
    | error e => rfl
    | ok us =>
      cases uri dialog.remoteParty with
      | error e => rfl
      | ok them =>
        cases hroute : dialog.route.mapM routeEntries with
        | error e => simp [bind, Except.bind, Except.map, pure, Except.pure]
        | ok route =>
          simp [bind, Except.bind, Except.map, pure, Except.pure, Reading.request]

/-- What is read of a dialog leads where its target says. -/
theorem uri_of_read {dialog : Dialog} {reading : Reading} (hread : dialog.read = .ok reading) :
    Sip.Uri.ofText? dialog.target = some reading.target := by
  unfold read uri at hread
  cases htarget : Sip.Uri.ofText? dialog.target with
  | none =>
    rw [htarget] at hread
    cases hread
  | some target =>
    simp only [htarget, bind, Except.bind] at hread
    split at hread
    · cases hread
    · split at hread
      · cases hread
      · split at hread
        · cases hread
        · cases hread
          rfl

/-- What is read depends on nothing but the texts. -/
theorem read_congr {dialog other : Dialog} (htarget : other.target = dialog.target)
    (hlocal : other.localParty = dialog.localParty)
    (hremote : other.remoteParty = dialog.remoteParty) (hroute : other.route = dialog.route) :
    other.read = dialog.read := by
  simp only [read, htarget, hlocal, hremote, hroute]

variable {dialog : Dialog} {bound : Endpoint} {supply supply' : Supply} {made : Sip.Request}

/-- A request that is built is one of the dialog, and asks for no lifetime by itself. -/
theorem carries_of_request {method : Sip.Method}
    (hmade : request method dialog bound supply = .ok (made, supply')) :
    dialog.Carries made ∧ made.expires? = none ∧ supply' = (supply.draw .branch).2 := by
  rw [request_eq] at hmade
  cases hread : dialog.read with
  | error e =>
    rw [hread] at hmade
    cases hmade
  | ok reading =>
    rw [hread] at hmade
    cases hmade
    refine ⟨⟨rfl, rfl, rfl, uri_of_read hread⟩, ?_, rfl⟩
    simp [Sip.Request.expires?, Sip.Headers.expires?, Reading.request, List.findSome?_map]

/-- A REGISTER that is built is one of the dialog, and asks for the lifetime that is given. -/
theorem carries_of_register {expiry : Nat} {instanceId : Option String} {featureTags : List String}
    (hmade : dialog.register bound expiry instanceId featureTags supply = .ok (made, supply')) :
    dialog.Carries made ∧ made.expires? = some expiry ∧ supply' = (supply.draw .branch).2 := by
  unfold register at hmade
  cases hbase : request .register dialog bound supply with
  | error e =>
    rw [hbase] at hmade
    cases hmade
  | ok base =>
    obtain ⟨base, supply₁⟩ := base
    rw [hbase] at hmade
    cases hmade
    obtain ⟨hcarries, hexpires, rfl⟩ := carries_of_request hbase
    refine ⟨((hcarries.add _).add _).add _, ?_, rfl⟩
    simp only [Sip.Request.expires?, Sip.Headers.expires?] at hexpires ⊢
    simp [Sip.Request.add, List.findSome?_append, hexpires, contact]

/-- A request can be built exactly if the texts can be read. -/
theorem isOk_request (method : Sip.Method) (dialog : Dialog) (bound : Endpoint) (supply : Supply) :
    (request method dialog bound supply).isOk = dialog.read.isOk := by
  rw [request_eq]
  cases dialog.read <;> rfl

/-- A re-INVITE can be built exactly if the texts can be read, and is one of the dialog then. -/
theorem reinvite_spec (dialog : Dialog) (bound : Endpoint) (featureTags : List String)
    (content : String) (supply : Supply) :
    (dialog.reinvite bound featureTags content supply).isOk = dialog.read.isOk ∧
      ∀ made supply', dialog.reinvite bound featureTags content supply = .ok (made, supply') →
        dialog.Carries made := by
  rw [← isOk_request .invite dialog bound supply]
  unfold reinvite
  cases hbase : request .invite dialog bound supply with
  | error e => exact ⟨rfl, by rintro _ _ ⟨⟩⟩
  | ok base =>
    obtain ⟨base, supply₁⟩ := base
    have hoffer := (((carries_of_request hbase).1.add (contact bound none featureTags)).add
      (.ofText "Content-Type" sessionDescription)).withBody (.text content)
    by_cases hplain : featureTags.isEmpty = true
    · simp only [hplain, if_true, bind, Except.bind]
      exact ⟨rfl, by rintro _ _ ⟨⟩; exact hoffer⟩
    · simp only [hplain, bind, Except.bind]
      exact ⟨rfl, by rintro _ _ ⟨⟩; exact hoffer.add _⟩

/-- A dialog comes from another one by so many requests; whom it is with and where it leads are the
same. -/
structure Advances (dialog next : Dialog) (count : Nat) : Prop where
  callId : next.callId = dialog.callId
  cSeq : next.cSeq = dialog.cSeq + count
  target : next.target = dialog.target
  localParty : next.localParty = dialog.localParty
  remoteParty : next.remoteParty = dialog.remoteParty
  route : next.route = dialog.route

/-- A dialog comes from itself by no request. -/
theorem Advances.refl (dialog : Dialog) : dialog.Advances dialog 0 :=
  ⟨rfl, rfl, rfl, rfl, rfl, rfl⟩

/-- Requests one after another add up. -/
theorem Advances.trans {dialog next last : Dialog} {first rest : Nat}
    (hfirst : dialog.Advances next first) (hrest : next.Advances last rest) :
    dialog.Advances last (first + rest) where
  callId := hrest.callId.trans hfirst.callId
  cSeq := by rw [hrest.cSeq, hfirst.cSeq, Nat.add_assoc]
  target := hrest.target.trans hfirst.target
  localParty := hrest.localParty.trans hfirst.localParty
  remoteParty := hrest.remoteParty.trans hfirst.remoteParty
  route := hrest.route.trans hfirst.route

/-- The texts of a dialog are read alike after any number of requests. -/
theorem Advances.read {dialog next : Dialog} {count : Nat} (h : dialog.Advances next count) :
    next.read = dialog.read :=
  read_congr h.target h.localParty h.remoteParty h.route

end Dialog

end ImsClient
