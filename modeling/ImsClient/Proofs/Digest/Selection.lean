import ImsClient.Digest.Challenge

/-!
# Which challenge is answered

A response may challenge in several headers of one name, each with one challenge or more,
and of any scheme. Only the first of these headers is looked at. So the first Digest
challenge of the response is answered if it stands there, and if a later header brings it,
there is said to be none.
-/

namespace ImsClient.Digest.Challenge

/-- The challenges in a header; one that cannot be read brings none. -/
def listOfHeader (value : String) : List Sip.Challenge :=
  (Sip.Challenge.listOfText? value).getD []

/-- The challenges of a response in all headers of a name, in the order of the message. -/
def listOfResponse (response : Sip.Response) (name : String) : List Sip.Challenge :=
  (response.headerTexts name).flatMap listOfHeader

/-- The first Digest challenge of a response. -/
def first? (response : Sip.Response) (name : String) : Option Sip.Challenge :=
  (listOfResponse response name).find? isDigest

/-- Every header of a name can be read. -/
def Readable (response : Sip.Response) (name : String) : Prop :=
  ∀ value ∈ response.headerTexts name, (Sip.Challenge.listOfText? value).isSome = true

/-- What is made of a response is what is made of its first Digest challenge. It is refused exactly
if there is no such challenge, or that one cannot be answered. -/
structure AnswersFirst (response : Sip.Response) (name : String) : Prop where
  answered : ∀ challenge, first? response name = some challenge →
    ofResponse response name = ofSip challenge
  refused_iff : (∃ error, ofResponse response name = .error error) ↔
    first? response name = none ∨
      ∃ challenge, first? response name = some challenge ∧ ∃ error, ofSip challenge = .error error

variable {response : Sip.Response} {name : String}

/-- Without a header of the name, there is nothing to answer. -/
theorem ofResponse_of_no_header (hnone : response.headerTexts name = []) :
    first? response name = none ∧
      ofResponse response name =
        .error (.protocol (toString response.status ++ " without " ++ name)) := by
  have htext : response.headerText? name = none := congrArg List.head? hnone
  constructor
  · simp [first?, listOfResponse, hnone]
  · simp [ofResponse, htext]

/-- The first Digest challenge is that of the first header, or else the first one of the others. -/
theorem first?_of_headers {value : String} {others : List String}
    (hheaders : response.headerTexts name = value :: others) :
    first? response name =
      ((listOfHeader value).find? isDigest).or ((others.flatMap listOfHeader).find? isDigest) := by
  rw [first?, listOfResponse, hheaders, List.flatMap_cons, List.find?_append]

/-- What is made of a response is told by its first header of the name. -/
theorem ofResponse_of_headers {value : String} {others : List String}
    (hheaders : response.headerTexts name = value :: others)
    (hvalue : (Sip.Challenge.listOfText? value).isSome = true) :
    ofResponse response name =
      match (listOfHeader value).find? isDigest with
      | none => .error (.protocol ("no Digest challenge in " ++ name))
      | some challenge => ofSip challenge := by
  have htext : response.headerText? name = some value := congrArg List.head? hheaders
  obtain ⟨challenges, hread⟩ := Option.isSome_iff_exists.mp hvalue
  cases hfirst : challenges.find? isDigest <;>
    simp [ofResponse, htext, listOfText, listOfHeader, hread, hfirst, bind, Except.bind]

/-! ### What a Digest challenge is refused for -/

/-- A parameter is refused for an algorithm only. -/
theorem Draft.error_of_take {draft : Draft} {param : Sip.DigestParam} {error : Error}
    (herror : draft.take param = .error error) :
    ∃ algorithm, error = .protocol ("unsupported digest algorithm " ++ algorithm) := by
  cases param with
  | algorithm algorithm =>
    cases algorithm with
    | md5 => cases herror
    | md5Sess | sha256 | other =>
      cases herror
      exact ⟨_, rfl⟩
  | _ => cases herror

/-- So are any number of them. -/
theorem Draft.error_of_foldlM {draft : Draft} {params : List Sip.DigestParam} {error : Error}
    (herror : params.foldlM take draft = .error error) :
    ∃ algorithm, error = .protocol ("unsupported digest algorithm " ++ algorithm) := by
  induction params generalizing draft with
  | nil => cases herror
  | cons param params ih =>
    rw [List.foldlM_cons] at herror
    cases htake : draft.take param with
    | error e =>
      rw [htake] at herror
      cases herror
      exact error_of_take htake
    | ok next =>
      rw [htake] at herror
      exact ih herror

/-- A Digest challenge is refused for its algorithm, or for want of a realm or a nonce. -/
theorem error_of_ofSip {params : List Sip.DigestParam} {error : Error}
    (herror : ofSip (.digest params) = .error error) :
    (∃ algorithm, error = .protocol ("unsupported digest algorithm " ++ algorithm)) ∨
      ∃ missing ∈ ["realm", "nonce"], error = .protocol ("challenge without " ++ missing) := by
  simp only [ofSip] at herror
  cases hdraft : params.foldlM Draft.take {} with
  | error e =>
    rw [hdraft] at herror
    cases herror
    exact .inl (Draft.error_of_foldlM hdraft)
  | ok draft =>
    rw [hdraft] at herror
    replace herror : draft.finish = .error error := herror
    unfold Draft.finish at herror
    right
    split at herror
    · cases herror
      exact ⟨"realm", by simp, rfl⟩
    · cases herror
      exact ⟨"nonce", by simp, rfl⟩
    · cases herror

/-- It is never refused for being no Digest challenge. -/
theorem ofSip_ne_absent {challenge : Sip.Challenge} (hdigest : isDigest challenge = true)
    (name : String) : ofSip challenge ≠ .error (.protocol ("no Digest challenge in " ++ name)) := by
  cases challenge with
  | other scheme params => cases hdigest
  | digest params =>
    intro hrefused
    -- The three texts begin with different letters.
    have hinitial {text text' : String}
        (h : Error.protocol ("no Digest challenge in " ++ name) = .protocol (text ++ text')) :
        (text ++ text').toList.head? = some 'n' := by
      rw [← Error.protocol.inj h]
      simp
    obtain ⟨algorithm, heq⟩ | ⟨missing, -, heq⟩ := error_of_ofSip hrefused
    · simpa using hinitial heq
    · simpa using hinitial heq

/-! ### The first of several headers -/

/-- **The first Digest challenge is answered if the first header brings it.** Where every header of
a name can be read, what is made of a response is what is made of its first Digest challenge,
exactly if the first header of the name has a Digest challenge or none of these headers has.
Otherwise there is said to be none. -/
theorem first_answered_iff (hreadable : Readable response name) :
    (AnswersFirst response name ↔
      ((first? response name).isSome = true →
        ∃ value, response.headerText? name = some value ∧
          (listOfHeader value).any isDigest = true)) ∧
      (¬ AnswersFirst response name →
        ofResponse response name = .error (.protocol ("no Digest challenge in " ++ name))) := by
  cases hheaders : response.headerTexts name with
  | nil =>
    obtain ⟨hfirst, hresponse⟩ := ofResponse_of_no_header hheaders
    have hanswers : AnswersFirst response name :=
      ⟨fun challenge hchallenge => by simp [hfirst] at hchallenge, by simp [hfirst, hresponse]⟩
    exact ⟨iff_of_true hanswers (by simp [hfirst]), fun hnot => absurd hanswers hnot⟩
  | cons value others =>
    have hvalue := hreadable value (by simp [hheaders])
    have htext : response.headerText? name = some value := congrArg List.head? hheaders
    have hfirst := first?_of_headers hheaders
    have hresponse := ofResponse_of_headers hheaders hvalue
    cases hhead : (listOfHeader value).find? isDigest with
    | some challenge =>
      rw [hhead, Option.some_or] at hfirst
      rw [hhead] at hresponse
      have hanswers : AnswersFirst response name := by
        refine ⟨fun other hother => ?_, by simp [hfirst, hresponse]⟩
        obtain rfl : challenge = other := Option.some.inj (hfirst.symm.trans hother)
        exact hresponse
      refine ⟨iff_of_true hanswers fun _ => ⟨value, htext, ?_⟩, fun hnot => absurd hanswers hnot⟩
      exact List.any_eq_true.mpr
        ⟨challenge, List.mem_of_find?_eq_some hhead, List.find?_some hhead⟩
    | none =>
      rw [hhead, Option.none_or] at hfirst
      rw [hhead] at hresponse
      refine ⟨⟨fun hanswers hsome => ?_, fun hleads => ?_⟩, fun _ => hresponse⟩
      · -- The first Digest challenge stands further down; if it is refused, for another reason.
        obtain ⟨challenge, hchallenge⟩ := Option.isSome_iff_exists.mp hsome
        have hdigest : isDigest challenge = true := List.find?_some hchallenge
        exact absurd ((hanswers.answered challenge hchallenge).symm.trans hresponse)
          (ofSip_ne_absent hdigest name)
      · have hnone : first? response name = none := by
          refine Option.not_isSome_iff_eq_none.mp fun hsome => ?_
          obtain ⟨found, hfound, hany⟩ := hleads hsome
          obtain rfl : value = found := Option.some.inj (htext.symm.trans hfound)
          obtain ⟨challenge, hmember, hdigest⟩ := List.any_eq_true.mp hany
          exact List.find?_eq_none.mp hhead challenge hmember hdigest
        exact ⟨fun challenge hchallenge => by simp [hnone] at hchallenge,
          by simp [hnone, hresponse]⟩

/-- A response that challenges in two headers, for the example. -/
def sampleResponse (first second : String) : Sip.Response where
  status := 401
  headers := [.raw "WWW-Authenticate" first, .raw "WWW-Authenticate" second]

/-- In the example, the Digest challenge of the first header is answered, though another challenge
stands before it and a later header brings one more. -/
theorem behind_other_scheme_answered_in_sample :
    let response := sampleResponse "Basic realm=\"b\", Digest realm=\"r\", nonce=\"n\""
      "Digest realm=\"s\", nonce=\"m\""
    Readable response "WWW-Authenticate" ∧
      ofResponse response "WWW-Authenticate" = .ok { realm := "r", nonce := "n" } := by
  intro response
  have hheaders : response.headerTexts "WWW-Authenticate" =
      ["Basic realm=\"b\", Digest realm=\"r\", nonce=\"n\"",
        "Digest realm=\"s\", nonce=\"m\""] := by decide +kernel
  have hfirst : Sip.Challenge.listOfText? "Basic realm=\"b\", Digest realm=\"r\", nonce=\"n\"" =
      some [.other "Basic" [("realm", "b")], .digest [.realm "r", .nonce "n"]] := by
    decide +kernel
  have hsecond : Sip.Challenge.listOfText? "Digest realm=\"s\", nonce=\"m\"" =
      some [.digest [.realm "s", .nonce "m"]] := by
    decide +kernel
  have hreadable : Readable response "WWW-Authenticate" := by
    simp [Readable, hheaders, hfirst, hsecond]
  have hanswers : AnswersFirst response "WWW-Authenticate" := by
    refine (first_answered_iff hreadable).1.mpr fun _ => ⟨_, congrArg List.head? hheaders, ?_⟩
    simp [listOfHeader, hfirst, isDigest]
  refine ⟨hreadable, hanswers.answered (.digest [.realm "r", .nonce "n"]) ?_⟩
  simp [first?, listOfResponse, hheaders, listOfHeader, hfirst, isDigest]

/-- But if the first header challenges by another scheme only, the Digest challenge of the second
one is missed, though it could be answered. -/
theorem second_header_missed_in_sample :
    let response := sampleResponse "Basic realm=\"b\"" "Digest realm=\"r\", nonce=\"n\""
    Readable response "WWW-Authenticate" ∧
      first? response "WWW-Authenticate" = some (.digest [.realm "r", .nonce "n"]) ∧
      ofSip (.digest [.realm "r", .nonce "n"]) = .ok { realm := "r", nonce := "n" } ∧
      ofResponse response "WWW-Authenticate" =
        .error (.protocol "no Digest challenge in WWW-Authenticate") ∧
      ¬ AnswersFirst response "WWW-Authenticate" := by
  intro response
  have hheaders : response.headerTexts "WWW-Authenticate" =
      ["Basic realm=\"b\"", "Digest realm=\"r\", nonce=\"n\""] := by decide +kernel
  have hfirst : Sip.Challenge.listOfText? "Basic realm=\"b\"" =
      some [.other "Basic" [("realm", "b")]] := by
    decide +kernel
  have hsecond : Sip.Challenge.listOfText? "Digest realm=\"r\", nonce=\"n\"" =
      some [.digest [.realm "r", .nonce "n"]] := by
    decide +kernel
  have hreadable : Readable response "WWW-Authenticate" := by
    simp [Readable, hheaders, hfirst, hsecond]
  have hdigest : first? response "WWW-Authenticate" = some (.digest [.realm "r", .nonce "n"]) := by
    simp [first?, listOfResponse, hheaders, listOfHeader, hfirst, hsecond, isDigest]
  have hmissed : ofResponse response "WWW-Authenticate" =
      .error (.protocol "no Digest challenge in WWW-Authenticate") := by
    rw [ofResponse_of_headers hheaders (by simp [hfirst])]
    simp [listOfHeader, hfirst, isDigest]
  refine ⟨hreadable, hdigest, rfl, hmissed, fun hanswers => ?_⟩
  cases (hanswers.answered _ hdigest).symm.trans hmissed

end ImsClient.Digest.Challenge
