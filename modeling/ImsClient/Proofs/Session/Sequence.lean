import ImsClient.Proofs.Session.Progress
import ImsClient.Proofs.Session.Retry

/-!
# The numbers of re-INVITEs

Every re-INVITE that is attempted on a dialog takes the next number, whoever attempts it
and whether it comes out or not: the first that comes out after some that failed has a
number that is larger by as many. Nothing gives a number back, so no two re-INVITEs of a
dialog have the same one. The count of the transport follows, and is never behind a
re-INVITE that was attempted.
-/

namespace ImsClient.Session

/-- A revision of a dialog by the owner of the session: of where it leads, of whom it is with, of
what was agreed on, but neither of its Call-ID nor of its number. -/
structure Revision where
  revise : Dialog → Dialog
  callId : ∀ dialog, (revise dialog).callId = dialog.callId
  cSeq : ∀ dialog, (revise dialog).cSeq = dialog.cSeq

/-- What is done to a session and its dialog. -/
inductive Deed where
  | acted (act : Act)
  | revised (revision : Revision)

namespace Progress

/-- The count of the transport never falls, and is the number of the last re-INVITE at least. -/
theorem peerCount_iterate_advance {progress : Progress} {callId : Identifier} {number count : Nat}
    (hnumber : progress.number = some (callId, number)) (hcount : progress.peerCount = some count)
    (attempts : Nat) :
    ∃ next, (advance^[attempts] progress).peerCount = some next ∧ count ≤ next ∧
      (0 < attempts → number + attempts ≤ next) := by
  induction attempts generalizing progress number count with
  | zero => exact ⟨count, hcount, Nat.le_refl count, fun hpos => absurd hpos (Nat.lt_irrefl 0)⟩
  | succ attempts ih =>
    have hadvance : progress.advance =
        { progress with
          number := some (callId, number + 1)
          peerCount := some (max count (number + 1)) } := by
      simp only [advance, hnumber, hcount, Option.map_some]
    have hadvanced : progress.advance.number = some (callId, number + 1) := by rw [hadvance]
    have hcounted : progress.advance.peerCount = some (max count (number + 1)) := by rw [hadvance]
    obtain ⟨next, hnext, hgrown, hlast⟩ := ih hadvanced hcounted
    refine ⟨next, by rw [Function.iterate_succ_apply, hnext], by omega, fun _ => ?_⟩
    rcases Nat.eq_zero_or_pos attempts with rfl | hpos
    · omega
    · have hreached := hlast hpos
      omega

end Progress

namespace Service

/-- The session after a deed. -/
def underDeed (s : Service) : Deed → Service
  | .acted act => (s.act act).1
  | .revised revision => s.updateDialog revision.revise

/-- The session after one deed after another. -/
def underDeeds (s : Service) : List Deed → Service
  | [] => s
  | deed :: rest => (s.underDeed deed).underDeeds rest

/-- What comes of the re-INVITE that a deed attempts, if it attempts one. -/
def tries (s : Service) : Deed → List (Except Error Sip.Request)
  | .acted act => s.attempts act
  | .revised _ => []

/-- What comes of the re-INVITEs that are attempted along a run, in order. -/
def triedBy (s : Service) : List Deed → List (Except Error Sip.Request)
  | [] => []
  | deed :: rest => s.tries deed ++ (s.underDeed deed).triedBy rest

variable {s : Service}

/-- **What number a deed takes.** A deed moves the number of the dialog on by one for the re-INVITE
that it attempts, if it attempts one; that re-INVITE has the Call-ID of the dialog and the number it
was moved to, if it comes out. -/
theorem deed_number {dialog : Dialog} (hdialog : s.dialog = some dialog) (deed : Deed) :
    (∃ next, (s.underDeed deed).dialog = some next ∧ next.callId = dialog.callId ∧
      next.cSeq = dialog.cSeq + (s.tries deed).length) ∧
    (s.tries deed).length ≤ 1 ∧
    ∀ request, .ok request ∈ s.tries deed →
      request.callId? = some dialog.callId ∧ request.cSeq? = some (dialog.cSeq + 1) := by
  cases deed with
  | revised revision =>
    refine ⟨⟨revision.revise dialog, ?_, revision.callId dialog, revision.cSeq dialog⟩,
      Nat.zero_le 1, fun request hrequest => by cases hrequest⟩
    simp [underDeed, updateDialog, hdialog]
  | acted act =>
    obtain ⟨hone, hcarries⟩ := s.attempts_spec act
    refine ⟨?_, hone, fun request hrequest => ?_⟩
    · obtain ⟨progress, hstood, _, hprogress⟩ := s.act_number act
      have hnumber := (Progress.iterate_advance (s.attempts act).length progress).2.2
      rw [← hprogress, hstood] at hnumber
      simp only [Service.progress, hdialog, Option.map_some] at hnumber
      obtain ⟨next, hnext, heq⟩ := Option.map_eq_some_iff.mp hnumber
      obtain ⟨hcallId, hcSeq⟩ := Prod.mk.inj heq
      exact ⟨next, hnext, hcallId, hcSeq⟩
    · have hnext := hcarries dialog hdialog request hrequest
      exact ⟨hnext.callId, hnext.cSeq⟩

/-- **What number an attempt has.** Along a run, an attempt that comes out has the number that the
dialog had at the start, plus one for each attempt up to it. -/
theorem cSeq_of_tried {dialog : Dialog} (hdialog : s.dialog = some dialog) {deeds : List Deed}
    {before later : List (Except Error Sip.Request)} {request : Sip.Request}
    (htried : s.triedBy deeds = before ++ .ok request :: later) :
    request.callId? = some dialog.callId ∧
      request.cSeq? = some (dialog.cSeq + before.length + 1) := by
  induction deeds generalizing s dialog before with
  | nil => simp [triedBy] at htried
  | cons deed deeds ih =>
    obtain ⟨⟨next, hnext, hcallId, hcSeq⟩, hone, hrequest⟩ := deed_number hdialog deed
    rw [triedBy] at htried
    cases htries : s.tries deed with
    | nil =>
      rw [htries] at htried hcSeq
      have hlater := ih hnext htried
      rwa [hcallId, hcSeq] at hlater
    | cons attempt more =>
      rw [htries, List.length_cons] at hone
      obtain rfl : more = [] := List.length_eq_zero_iff.mp (by omega)
      rw [htries] at htried hcSeq hrequest
      cases before with
      | nil =>
        obtain ⟨rfl, _⟩ := List.cons_eq_cons.mp htried
        exact hrequest request (List.mem_singleton_self _)
      | cons earlier before =>
        obtain ⟨_, hrest⟩ := List.cons_eq_cons.mp htried
        have hlater := ih hnext hrest
        rw [hcallId, hcSeq] at hlater
        simpa [Nat.add_assoc, Nat.add_comm, Nat.add_left_comm] using hlater

/-- A session keeps its dialog along a run. -/
theorem exists_dialog_underDeeds {dialog : Dialog} (hdialog : s.dialog = some dialog)
    (deeds : List Deed) : ∃ next, (s.underDeeds deeds).dialog = some next := by
  induction deeds generalizing s dialog with
  | nil => exact ⟨dialog, hdialog⟩
  | cons deed deeds ih =>
    obtain ⟨⟨next, hnext, _⟩, _⟩ := deed_number hdialog deed
    exact ih hnext

/-- **What the transport counts.** No deed lets the count of the transport fall, and one that
attempts a re-INVITE leaves it at the number of the dialog then, at least. -/
theorem peerCount_underDeed {dialog : Dialog} (hdialog : s.dialog = some dialog) {count : Nat}
    (hcount : s.peerCount = some count) (deed : Deed) :
    ∃ next, (s.underDeed deed).peerCount = some next ∧ count ≤ next ∧
      (s.tries deed ≠ [] → dialog.cSeq + 1 ≤ next) := by
  cases deed with
  | revised revision => exact ⟨count, hcount, Nat.le_refl count, fun hne => absurd rfl hne⟩
  | acted act =>
    obtain ⟨progress, hstood, hcounted, hprogress⟩ := s.act_number act
    have hnumber : progress.number = some (dialog.callId, dialog.cSeq) := by
      rw [hstood]
      simp only [Service.progress, hdialog, Option.map_some]
    obtain ⟨next, hnext, hgrown, hreached⟩ :=
      Progress.peerCount_iterate_advance hnumber (hcounted.trans hcount) (s.attempts act).length
    refine ⟨next, ?_, hgrown, fun hne => ?_⟩
    · rw [← hprogress] at hnext
      exact hnext
    · have hpos : 0 < (s.attempts act).length := List.length_pos_iff.mpr hne
      have hlast := hreached hpos
      omega

/-- **Re-INVITEs are numbered in turn.** Whatever is done to a session with a dialog, the n-th
re-INVITE that is built on it has the number that the dialog had at the start, plus n, plus one for
each attempt before it that failed; so of two of them the later one has the larger number. What is
built is what comes of the attempts. If the transport keeps a count, it never falls, and after a
re-INVITE was built it is the number of that one at least. -/
theorem reinvites_numbered_in_turn {dialog : Dialog} (hdialog : s.dialog = some dialog)
    (deeds : List Deed) :
    (∀ before request later, s.triedBy deeds = before ++ .ok request :: later →
      request.callId? = some dialog.callId ∧
      request.cSeq? = some (dialog.cSeq + (before.countP (fun attempt => attempt.isOk) + 1) +
        before.countP (fun attempt => !attempt.isOk))) ∧
    (∀ before first between second later,
      s.triedBy deeds = before ++ .ok first :: (between ++ .ok second :: later) →
        ∃ number next, first.cSeq? = some number ∧ second.cSeq? = some next ∧ number < next) ∧
    ∀ earlier deed rest, deeds = earlier ++ deed :: rest →
      let n := s.underDeeds earlier
      (∀ act, deed = .acted act → n.made act = (n.tries deed).filterMap Except.toOption) ∧
      ∀ count, n.peerCount = some count →
        ∃ next, (n.underDeed deed).peerCount = some next ∧ count ≤ next ∧
          ∀ request, .ok request ∈ n.tries deed →
            ∃ number, request.cSeq? = some number ∧ number ≤ next := by
  refine ⟨fun before request later htried => ?_, ?_, ?_⟩
  · obtain ⟨hcallId, hcSeq⟩ := cSeq_of_tried hdialog htried
    have hcount : before.length = before.countP (fun attempt => attempt.isOk) +
        before.countP (fun attempt => !attempt.isOk) := by
      rw [List.length_eq_countP_add_countP (fun attempt => attempt.isOk)]
      simp only [Bool.not_eq_true, Bool.decide_eq_false]
    refine ⟨hcallId, ?_⟩
    rw [hcSeq, hcount]
    congr 1
    omega
  · intro before first between second later htried
    have hfirst := (cSeq_of_tried hdialog htried).2
    rw [← List.cons_append, ← List.append_assoc] at htried
    have hsecond := (cSeq_of_tried hdialog htried).2
    refine ⟨_, _, hfirst, hsecond, ?_⟩
    rw [List.length_append, List.length_cons]
    omega
  · rintro earlier deed rest rfl n
    obtain ⟨next, hnext⟩ := exists_dialog_underDeeds hdialog earlier
    refine ⟨?_, fun count hcount => ?_⟩
    · rintro act rfl
      exact n.made_eq act
    · obtain ⟨reached, hreached, hgrown, hlast⟩ := peerCount_underDeed hnext hcount deed
      refine ⟨reached, hreached, hgrown, fun request hrequest => ?_⟩
      have hnumber := (deed_number hnext deed).2.2 request hrequest
      exact ⟨next.cSeq + 1, hnumber.2, hlast (List.ne_nil_of_mem hrequest)⟩

/-- A session whose dialog leads nowhere, with a transport that counts ahead of it. -/
def sampleAstray : Service :=
  { sampleProxied.updateDialog (fun dialog => { dialog with target := "" }) with
    peerCount := some 3 }

/-- An example: a re-INVITE cannot be built until the dialog is given a target. Then two are built,
and the first of them is made again for the proxy. -/
def sampleTurns : List Deed :=
  [.acted (.created {}),
    .revised ⟨fun dialog => { dialog with target := "sip:b@a" }, fun _ => rfl, fun _ => rfl⟩,
    .acted (.created {}), .acted (.happened 0 (.offered 0 (sampleMade {}) .mediaUpdate)),
    .acted (.created {}), .acted (.happened 1 (.replied 0 (.done sampleChallenge)))]

/-- In the example the dialog was at the number 1, the attempt that failed takes 2, and the three
re-INVITEs have the numbers 3, 4 and 5; the count of the transport, 4 before the last one, does not
fall. -/
theorem failed_attempt_takes_number_in_sample :
    ∃ error first second third,
      sampleAstray.triedBy sampleTurns = [.error error, .ok first, .ok second, .ok third] ∧
      first.cSeq? = some 3 ∧ second.cSeq? = some 4 ∧ third.cSeq? = some 5 ∧
      ∃ next, (sampleAstray.underDeeds sampleTurns).peerCount = some next ∧ 4 ≤ next := by
  have hshape : (sampleAstray.triedBy sampleTurns).map (fun attempt => attempt.isOk) =
      [false, true, true, true] := by decide +kernel
  obtain ⟨error, first, second, third, htried⟩ : ∃ error first second third,
      sampleAstray.triedBy sampleTurns = [.error error, .ok first, .ok second, .ok third] := by
    have hok {attempt : Except Error Sip.Request} (h : attempt.isOk = true) :
        ∃ request, attempt = .ok request := by
      cases attempt with
      | error => cases h
      | ok request => exact ⟨request, rfl⟩
    generalize sampleAstray.triedBy sampleTurns = attempts at hshape ⊢
    obtain ⟨failed, rest, rfl, hfailed, hshape⟩ := List.map_eq_cons_iff.mp hshape
    obtain ⟨first, rest, rfl, hfirst, hshape⟩ := List.map_eq_cons_iff.mp hshape
    obtain ⟨second, rest, rfl, hsecond, hshape⟩ := List.map_eq_cons_iff.mp hshape
    obtain ⟨third, rest, rfl, hthird, hshape⟩ := List.map_eq_cons_iff.mp hshape
    obtain rfl := List.map_eq_nil_iff.mp hshape
    obtain ⟨first, rfl⟩ := hok hfirst
    obtain ⟨second, rfl⟩ := hok hsecond
    obtain ⟨third, rfl⟩ := hok hthird
    cases failed with
    | error error => exact ⟨error, first, second, third, rfl⟩
    | ok => cases hfailed
  have hdialog :
      sampleAstray.dialog = some { sampleProxied.dialog.get rfl with target := "" } := rfl
  obtain ⟨hnumber, _, hcounts⟩ := reinvites_numbered_in_turn hdialog sampleTurns
  obtain ⟨_, hcount⟩ := hcounts (sampleTurns.take 5) (sampleTurns[5]) [] rfl
  obtain ⟨next, hnext, hgrown, _⟩ := hcount 4 (by decide +kernel)
  refine ⟨error, first, second, third, htried, ?_, ?_, ?_, next, hnext, hgrown⟩
  · exact (hnumber [.error error] first _ htried).2
  · exact (hnumber [.error error, .ok first] second _ htried).2
  · exact (hnumber [.error error, .ok first, .ok second] third _ htried).2

end Service

end ImsClient.Session
