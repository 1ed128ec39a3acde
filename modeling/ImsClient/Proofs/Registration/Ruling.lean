import ImsClient.Proofs.Registration.Ledger

/-!
# What comes of a reply

A reply is ruled on in one of seven ways. All that is shown about replies is shown of
these: what each of them teaches, and whether the attempt goes on, ends or fails.
-/

namespace ImsClient.Registration.Manager

/-- What a manager makes of a reply: how it stands then, and how the attempt goes on. A response
with another status than these fails the attempt. -/
inductive Ruling (m : Manager) (now : Instant) : Purpose → Reply → Manager → Verdict → Prop
  | granted {response : Sip.Response} (hstatus : response.status = 200) :
      Ruling m now .register (.response response) (m.takeGrant now response) .done
  | released {deferred : Bool} {response : Sip.Response} (hstatus : response.status = 200) :
      Ruling m now (.unregister deferred) (.response response) m.takeRelease .done
  | redirected {purpose : Purpose} {response : Sip.Response} {contact : Sip.Address}
      {rest : List Sip.Address} (hstatus : response.status = 302)
      (hcontacts : Sip.Headers.contacts response.headers = contact :: rest) :
      Ruling m now purpose (.response response)
        { m with
          dialog := m.dialog.map fun dialog =>
            { dialog with target := contact.uri.text .plain } }
        .resend
  | challenged {purpose : Purpose} {response : Sip.Response} (hstatus : response.status = 401) :
      Ruling m now purpose (.response response)
        { m with
          challenges := m.challenges + 1
          procedure := (m.procedure.read response).2 }
        .resend
  | adopted {response : Sip.Response} {seconds : Nat} (hstatus : response.status = 423)
      (hseconds : seconds? response "Min-Expires" = some seconds) :
      Ruling m now .register (.response response) { m with expiry := seconds } .resend
  | rejected {purpose : Purpose} {response : Sip.Response}
      (hstatus : isRetried response.status = true) :
      Ruling m now purpose (.response response) { m with rejections := m.rejections + 1 } .resend
  /-- The attempt fails; at most its challenge was read. -/
  | failed {purpose : Purpose} {reply : Reply} {n : Manager} (fault : RegistrationFault)
      (message : String) (hkeeps : m.Keeps n)
      (hminimum : (Signal.heard purpose reply).minimum? = none)
      (hredirection : (Signal.heard purpose reply).redirection? = none)
      (hprocedure : n.procedure = m.procedure ∨ ∃ response, reply = .response response ∧
        response.status = 401 ∧ n.procedure = (m.procedure.read response).2) :
      Ruling m now purpose reply n (.fail (.registration fault message))

variable {m n : Manager} {now : Instant} {purpose : Purpose} {response : Sip.Response}

/-- A response with another status than 423 asks for no lifetime. -/
theorem minimum?_of_status (purpose : Purpose) (hstatus : response.status ≠ 423) :
    (Signal.heard purpose (.response response)).minimum? = none := by
  cases purpose <;> simp [Signal.minimum?, hstatus]

/-- A response with another status than 302 names no place. -/
theorem redirection?_of_status (purpose : Purpose) (hstatus : response.status ≠ 302) :
    (Signal.heard purpose (.response response)).redirection? = none := by
  simp [Signal.redirection?, hstatus]

/-- A 302 leads on if it names a place. -/
theorem ruling_redirect (m : Manager) (now : Instant) (purpose : Purpose)
    (hstatus : response.status = 302) :
    Ruling m now purpose (.response response) (m.redirect response).1
      (m.redirect response).2 := by
  unfold redirect
  split
  · next hcontacts =>
    refine .failed _ _ ⟨rfl, rfl, rfl, rfl⟩ (minimum?_of_status purpose (by simp [hstatus])) ?_
      (.inl rfl)
    simp [Signal.redirection?, hcontacts]
  · next hcontacts => exact .redirected hstatus hcontacts

/-- A 401 is answered if it is not one too many and can be read. -/
theorem ruling_answerChallenge (m : Manager) (now : Instant) (purpose : Purpose)
    (hstatus : response.status = 401) :
    Ruling m now purpose (.response response) (m.answerChallenge response).1
      (m.answerChallenge response).2 := by
  have h423 : response.status ≠ 423 := by simp [hstatus]
  have h302 : response.status ≠ 302 := by simp [hstatus]
  have hminimum := minimum?_of_status purpose h423
  have hredirection := redirection?_of_status purpose h302
  unfold answerChallenge
  dsimp only
  split
  · exact .failed _ _ ⟨rfl, rfl, rfl, rfl⟩ hminimum hredirection (.inl rfl)
  · split
    · exact .challenged hstatus
    · exact .failed _ _ ⟨rfl, rfl, rfl, rfl⟩ hminimum hredirection
        (.inr ⟨response, rfl, hstatus, rfl⟩)

/-- A 423 to a REGISTER is followed if it asks for a lifetime. -/
theorem ruling_adoptMinimum (m : Manager) (now : Instant) (hstatus : response.status = 423) :
    Ruling m now .register (.response response) (m.adoptMinimum response).1
      (m.adoptMinimum response).2 := by
  have h302 : response.status ≠ 302 := by simp [hstatus]
  have hredirection := redirection?_of_status .register h302
  unfold adoptMinimum
  split
  · next hnone =>
    refine .failed _ _ ⟨rfl, rfl, rfl, rfl⟩ ?_ hredirection (.inl rfl)
    simp [Signal.minimum?, seconds?, hnone]
  · next seconds hseconds => exact .adopted hstatus hseconds

/-- A rejection is tried again after if it asks for no delay and is not one too many. -/
theorem ruling_retry (m : Manager) (now : Instant) (purpose : Purpose)
    (hstatus : isRetried response.status = true) :
    Ruling m now purpose (.response response) (m.retry response).1 (m.retry response).2 := by
  have h423 : response.status ≠ 423 := by
    intro h
    simp [h, isRetried] at hstatus
  have h302 : response.status ≠ 302 := by
    intro h
    simp [h, isRetried] at hstatus
  have hminimum := minimum?_of_status purpose h423
  have hredirection := redirection?_of_status purpose h302
  unfold retry
  split
  · exact .failed _ _ ⟨rfl, rfl, rfl, rfl⟩ hminimum hredirection (.inl rfl)
  · dsimp only
    split
    · exact .failed _ _ ⟨rfl, rfl, rfl, rfl⟩ hminimum hredirection (.inl rfl)
    · exact .rejected hstatus

/-- **Every reply is ruled on.** -/
theorem judgeReply_ruling (m : Manager) (now : Instant) (purpose : Purpose) (reply : Reply) :
    Ruling m now purpose reply (m.judgeReply now purpose reply).1
      (m.judgeReply now purpose reply).2 := by
  cases reply with
  | failure error =>
    exact .failed _ _ ⟨rfl, rfl, rfl, rfl⟩ (by cases purpose <;> rfl) rfl (.inl rfl)
  | none => exact .failed _ _ ⟨rfl, rfl, rfl, rfl⟩ (by cases purpose <;> rfl) rfl (.inl rfl)
  | response response =>
    simp only [judgeReply]
    unfold judge
    split
    · next hstatus =>
      cases purpose with
      | register => exact .granted hstatus
      | unregister => exact .released hstatus
    · next hstatus => exact m.ruling_redirect now purpose hstatus
    · next hstatus => exact m.ruling_answerChallenge now purpose hstatus
    · next hstatus =>
      cases purpose with
      | register => exact m.ruling_adoptMinimum now hstatus
      | unregister =>
        exact .failed _ _ ⟨rfl, rfl, rfl, rfl⟩ rfl
          (redirection?_of_status _ (by simp [hstatus])) (.inl rfl)
    · next h302 _ h423 =>
      split
      · next hretried => exact m.ruling_retry now purpose hretried
      · exact .failed _ _ ⟨rfl, rfl, rfl, rfl⟩ (minimum?_of_status purpose h423)
          (redirection?_of_status purpose h302) (.inl rfl)

end ImsClient.Registration.Manager
