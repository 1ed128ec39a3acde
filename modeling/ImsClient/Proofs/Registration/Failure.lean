import ImsClient.Proofs.Registration.Wire

/-!
# Which failures carry a code

A failure that the listener is told of carries a registration code, with one exception:
a REGISTER that cannot be built, because a text that it needs is not read as what it
should be, is told of as it is. The texts come from the settings, which are not read
when they are checked, and from the place that a 302 names. So a manager whose settings
can be read tells of a failure without a code only on such a 302, and one whose
settings cannot be read tells of no other failure.
-/

namespace ImsClient

/-- The texts of the settings that a REGISTER needs can be read. -/
structure Settings.Legible (settings : Settings) : Prop where
  home : (Sip.Uri.ofText? settings.homeUri).isSome = true
  identity : (Sip.Uri.ofText? settings.publicUri).isSome = true
  route : (Sip.Address.listOfText? ("<sip:" ++ settings.homeDomain ++ ";lr>")).isSome = true

/-- A text can be read exactly under a condition, and an error of the reading carries no
registration code. -/
structure Reads {α : Type} (reading : Except Error α) (possible : Bool) : Prop where
  isOk : reading.isOk = possible
  uncoded : ∀ error, reading = .error error → error.registrationFault? = none

/-- What is there already is read. -/
theorem Reads.pure {α : Type} (x : α) : Reads (pure x : Except Error α) true :=
  ⟨rfl, by rintro _ ⟨⟩⟩

/-- One text after another is read. -/
theorem Reads.bind {α β : Type} {reading : Except Error α} {next : α → Except Error β}
    {first rest : Bool} (hfirst : Reads reading first) (hrest : ∀ x, Reads (next x) rest) :
    Reads (reading >>= next) (first && rest) := by
  cases hreading : reading with
  | error e =>
    have herror : first = false := by rw [← hfirst.isOk, hreading]; rfl
    rw [herror]
    refine ⟨rfl, ?_⟩
    rintro _ ⟨⟩
    exact hfirst.uncoded e hreading
  | ok x =>
    have hok : first = true := by rw [← hfirst.isOk, hreading]; rfl
    rw [hok, Bool.true_and]
    exact hrest x

namespace Dialog

/-- A URI is read if its text is one. -/
theorem reads_uri (text : String) : Reads (uri text) (Sip.Uri.ofText? text).isSome := by
  unfold uri
  cases Sip.Uri.ofText? text with
  | some found => exact .pure found
  | none => exact ⟨rfl, by rintro _ ⟨⟩; rfl⟩

/-- A header of a route is read if its text is one. -/
theorem reads_routeEntries (text : String) :
    Reads (routeEntries text) (Sip.Address.listOfText? text).isSome := by
  unfold routeEntries
  cases Sip.Address.listOfText? text with
  | some entries => exact .pure entries
  | none => exact ⟨rfl, by rintro _ ⟨⟩; rfl⟩

/-- A route is read if each of its headers is. -/
theorem reads_route (route : List String) :
    Reads (route.mapM routeEntries)
      (route.all fun text => (Sip.Address.listOfText? text).isSome) := by
  induction route with
  | nil => exact .pure []
  | cons text route ih =>
    rw [List.mapM_cons, List.all_cons]
    refine (reads_routeEntries text).bind fun entries => ?_
    rw [← Bool.and_true (route.all _)]
    exact ih.bind fun rest => .pure (entries :: rest)

/-- The texts of a dialog are read if each of them is. -/
theorem reads_read (dialog : Dialog) :
    Reads dialog.read ((Sip.Uri.ofText? dialog.target).isSome &&
      ((Sip.Uri.ofText? dialog.localParty).isSome &&
      ((Sip.Uri.ofText? dialog.remoteParty).isSome &&
      ((dialog.route.all fun text => (Sip.Address.listOfText? text).isSome) && true)))) :=
  (reads_uri dialog.target).bind fun target =>
    (reads_uri dialog.localParty).bind fun us =>
      (reads_uri dialog.remoteParty).bind fun them =>
        (reads_route dialog.route).bind fun route => .pure (Reading.mk target us them route)

/-- A REGISTER is built if the texts are read. -/
theorem reads_register (dialog : Dialog) (bound : Endpoint) (expiry : Nat)
    (instanceId : Option String) (featureTags : List String) (supply : Supply) :
    Reads (dialog.register bound expiry instanceId featureTags supply) dialog.read.isOk := by
  unfold register
  rw [request_eq]
  cases hread : dialog.read with
  | error e => exact ⟨rfl, by rintro _ ⟨⟩; exact dialog.reads_read.uncoded e hread⟩
  | ok reading => exact .pure _

end Dialog

namespace Registration

/-- The error of the failure that an effect tells of. -/
def Effect.failure? : Effect → Option Error
  | tell _ (.failed error) => some error
  | _ => none

/-- An event leads an exchange on to a place that cannot be read. -/
def Event.LeadsNowhere (event : Event) : Prop :=
  ∃ reply target, event = .replied reply ∧
    (Signal.heard .register reply).redirection? = some target ∧
    Sip.Uri.ofText? target = none

/-- A place that a 302 writes with an escape is kept as a text without one, which is not read. -/
example : Event.LeadsNowhere (.replied (.response
    { status := 302
      headers := [.contact ((Sip.Address.listOfText? "<sip:a;x=%3Fb>").getD [])] })) :=
  ⟨_, "sip:a;x=?b", rfl, by decide +kernel, by decide +kernel⟩

namespace Manager

/-- A dialog is that of a manager's settings, whose texts can be read with it. -/
structure Spells (settings : Settings) (dialog : Dialog) : Prop where
  localParty : dialog.localParty = settings.publicUri
  remoteParty : dialog.remoteParty = settings.publicUri
  route : dialog.route = ["<sip:" ++ settings.homeDomain ++ ";lr>"]

variable {settings : Settings} {dialog : Dialog}

/-- A new dialog can be read exactly if the settings can. -/
theorem Spells.read_home (h : Spells settings dialog) (htarget : dialog.target = settings.homeUri) :
    dialog.read.isOk = true ↔ settings.Legible := by
  rw [dialog.reads_read.isOk, htarget, h.localParty, h.remoteParty, h.route]
  simp only [List.all_cons, List.all_nil, Bool.and_true, Bool.and_eq_true]
  exact ⟨fun ⟨home, identity, _, route⟩ => ⟨home, identity, route⟩,
    fun ⟨home, identity, route⟩ => ⟨home, identity, identity, route⟩⟩

/-- Where the settings can be read, a dialog can be read exactly if the place can that it leads to.
-/
theorem Spells.read_of_legible (h : Spells settings dialog) (hlegible : settings.Legible) :
    dialog.read.isOk = (Sip.Uri.ofText? dialog.target).isSome := by
  rw [dialog.reads_read.isOk, h.localParty, h.remoteParty, h.route]
  simp [hlegible.identity, hlegible.route]

/-- The dialog of a manager is that of its settings, and both can be read. -/
structure Clear (m : Manager) : Prop where
  legible : m.dialog.isSome = true → m.settings.Legible
  spells : ∀ dialog, m.dialog = some dialog → Spells m.settings dialog
  read : ∀ dialog, m.dialog = some dialog → dialog.read.isOk = true

/-- Of the failures that some effects tell of, each has no code exactly under a condition. -/
def Tells (uncoded : Prop) (effects : List Effect) : Prop :=
  ∀ error ∈ effects.filterMap Effect.failure?, error.registrationFault? = none ↔ uncoded

/-- A step leaves a manager clear, with its settings, and tells of failures without a code exactly
under a condition. -/
structure Clears (m : Manager) (uncoded : Prop) (result : Manager × List Effect) : Prop where
  clear : result.1.Clear
  settings : result.1.settings = m.settings
  tells : Tells uncoded result.2

variable {m n : Manager} {uncoded : Prop}

/-- Another manager is as clear, if it has the same settings and the same dialog. -/
theorem Clear.keeps (h : m.Clear) (hsettings : n.settings = m.settings)
    (hdialog : n.dialog = m.dialog) : n.Clear where
  legible hsome := hsettings ▸ h.legible (hdialog ▸ hsome)
  spells dialog hn := hsettings ▸ h.spells dialog (hdialog ▸ hn)
  read dialog hn := h.read dialog (hdialog ▸ hn)

/-- A manager without a dialog is clear. -/
theorem clear_of_no_dialog (hdialog : m.dialog = none) : m.Clear where
  legible hsome := by simp [hdialog] at hsome
  spells dialog hn := by cases hdialog.symm.trans hn
  read dialog hn := by cases hdialog.symm.trans hn

/-! ### Requests -/

/-- A request is composed only of a dialog that can be read, and an error of composing it has no
code exactly if the dialog cannot be read. -/
theorem compose_fault (hdialog : m.dialog = some dialog) (purpose : Purpose) :
    (∀ request, (m.compose purpose).1 = .ok request → dialog.read.isOk = true) ∧
      ∀ error, (m.compose purpose).1 = .error error →
        (error.registrationFault? = none ↔ dialog.read.isOk = false) := by
  simp only [compose, hdialog]
  generalize (if purpose.isUnregister = true then 0 else m.expiry) = expiry
  have hreads := dialog.reads_register m.bound expiry m.settings.instanceId m.settings.featureTags
    m.supply
  cases hmade : dialog.register m.bound expiry m.settings.instanceId m.settings.featureTags
      m.supply with
  | error e =>
    have hnone := hreads.uncoded e hmade
    have hread := hreads.isOk
    rw [hmade] at hread
    refine ⟨by rintro _ ⟨⟩, ?_⟩
    rintro _ ⟨⟩
    exact ⟨fun _ => hread.symm, fun _ => hnone⟩
  | ok made =>
    have hread := hreads.isOk
    rw [hmade] at hread
    refine ⟨fun _ _ => hread.symm, fun error herror => ?_⟩
    dsimp only at herror
    rw [← hread]
    split at herror
    · cases herror
    · cases herror
      simp [Error.registrationFault?, Except.isOk, Except.toBool]

/-- To send a request of a dialog of the settings leaves the manager clear, and tells of a failure
without a code exactly if the dialog cannot be read. -/
theorem send_clears (hdialog : m.dialog = some dialog) (hspells : Spells m.settings dialog)
    (hlegible : dialog.read.isOk = true → m.settings.Legible) (call : CallId)
    (purpose : Purpose) : m.Clears (dialog.read.isOk = false) (m.send call purpose) := by
  obtain ⟨hmade, hfault⟩ := compose_fault hdialog purpose
  obtain ⟨procedure, supply, huses⟩ := m.compose_uses purpose
  rcases m.send_cases call purpose with
    ⟨n, request, _, hcompose, heq⟩ | ⟨n, error, _, hcompose, heq⟩
  · rw [hcompose] at hmade huses
    obtain rfl : n = _ := huses
    have hread := hmade request rfl
    rw [heq]
    refine ⟨⟨fun _ => hlegible hread, fun other hother => ?_, fun other hother => ?_⟩, rfl, ?_⟩
    · cases hdialog.symm.trans hother
      exact hspells
    · cases hdialog.symm.trans hother
      exact hread
    · intro error herror
      cases herror
  · rw [hcompose] at hfault huses
    obtain rfl : n = _ := huses
    rw [heq]
    refine ⟨clear_of_no_dialog rfl, rfl, ?_⟩
    intro told htold
    obtain rfl : told = error := by simpa [fail_eq, Effect.failure?] using htold
    exact hfault told rfl

/-- The dialog of an attempt that is about to be made is that of the settings, and can be read
exactly if they can. -/
theorem Clear.prepare (h : m.Clear) (purpose : Purpose)
    (hpurpose : purpose.isUnregister = true → m.dialog.isSome = true) :
    ∃ dialog, (m.prepare purpose).dialog = some dialog ∧ Spells m.settings dialog ∧
      (dialog.read.isOk = true ↔ m.settings.Legible) := by
  cases hdialog : m.dialog with
  | some dialog =>
    have hspells := h.spells dialog hdialog
    have hlegible := h.legible (by rw [hdialog]; rfl)
    have hread : dialog.advance.read.isOk = true := h.read dialog hdialog
    refine ⟨dialog.advance, ?_, ⟨hspells.localParty, hspells.remoteParty, hspells.route⟩,
      fun _ => hlegible, fun _ => hread⟩
    cases purpose <;> simp [Manager.prepare, prepareDialog, hdialog]
  | none =>
    cases purpose with
    | unregister =>
      have hsome := hpurpose rfl
      rw [hdialog] at hsome
      cases hsome
    | register =>
      have hspells : Spells m.settings
          (Dialog.create (m.supply.draw (.call m.bound.ip.text)).1 m.settings.homeUri
            m.settings.publicUri m.settings.publicUri
            ["<sip:" ++ m.settings.homeDomain ++ ";lr>"]
            (m.supply.draw (.call m.bound.ip.text)).2).1 := ⟨rfl, rfl, rfl⟩
      refine ⟨_, ?_, hspells, hspells.read_home rfl⟩
      simp only [Manager.prepare, prepareDialog, hdialog]

/-- An attempt that starts leaves a clear manager clear, and fails without a code exactly if the
settings cannot be read. -/
theorem Clear.startExchange (h : m.Clear) (call : CallId) (purpose : Purpose)
    (hpurpose : purpose.isUnregister = true → m.dialog.isSome = true) :
    m.Clears (¬ m.settings.Legible) (m.startExchange call purpose) := by
  obtain ⟨dialog, hdialog, hspells, hread⟩ := h.prepare purpose hpurpose
  have hsettings := (m.prepare_prepared purpose).settings
  rw [← hsettings] at hspells hread ⊢
  rw [startExchange_eq]
  have hsent := send_clears hdialog hspells hread.mp call purpose
  refine ⟨hsent.clear, hsent.settings.trans hsettings, ?_⟩
  rw [← hread, Bool.not_eq_true]
  exact hsent.tells

/-! ### Replies -/

/-- A reply that names a place asks for one more request. -/
theorem Ruling.resend_of_redirection {now : Instant} {purpose : Purpose} {reply : Reply}
    {verdict : Verdict} {target : String} (h : Ruling m now purpose reply n verdict)
    (hredirection : (Signal.heard purpose reply).redirection? = some target) :
    verdict = .resend := by
  cases h with
  | redirected | challenged | adopted | rejected => rfl
  | granted hstatus | released hstatus => simp [Signal.redirection?, hstatus] at hredirection
  | failed _ _ _ _ hnone _ => cases hnone.symm.trans hredirection

/-- A reply that fails an attempt fails it with a code. -/
theorem Ruling.coded {now : Instant} {purpose : Purpose} {reply : Reply} {error : Error}
    (h : Ruling m now purpose reply n (.fail error)) : error.registrationFault? ≠ none := by
  cases h
  simp [Error.registrationFault?]

/-- A reply leads nowhere if the place that it names cannot be read. -/
theorem leadsNowhere_iff (purpose : Purpose) (reply : Reply) :
    (Event.replied reply).LeadsNowhere ↔
      ∃ target, (Signal.heard purpose reply).redirection? = some target ∧
        Sip.Uri.ofText? target = none := by
  have hsame : (Signal.heard .register reply).redirection? =
      (Signal.heard purpose reply).redirection? := by cases reply <;> rfl
  constructor
  · rintro ⟨_, target, ⟨⟩, hredirection, hnone⟩
    exact ⟨target, hsame ▸ hredirection, hnone⟩
  · rintro ⟨target, hredirection, hnone⟩
    exact ⟨reply, target, rfl, hsame ▸ hredirection, hnone⟩

/-- One more request of a dialog of settings that can be read leaves the manager clear, and fails
without a code exactly if the dialog leads to a place that cannot be read. -/
theorem resend_clears (hdialog : m.dialog = some dialog) (hspells : Spells m.settings dialog)
    (hlegible : m.settings.Legible) (call : CallId) (purpose : Purpose) :
    m.Clears (Sip.Uri.ofText? dialog.target = none)
      ({ m with dialog := m.dialog.map Dialog.advance }.send call purpose) := by
  have hnext : m.dialog.map Dialog.advance = some dialog.advance := by
    rw [hdialog, Option.map_some]
  have hsent := send_clears (m := { m with dialog := m.dialog.map Dialog.advance }) hnext
    ⟨hspells.localParty, hspells.remoteParty, hspells.route⟩ (fun _ => hlegible) call purpose
  refine ⟨hsent.clear, hsent.settings, fun error herror => ?_⟩
  rw [hsent.tells error herror]
  change dialog.read.isOk = false ↔ _
  rw [hspells.read_of_legible hlegible, Option.isSome_eq_false_iff, Option.isNone_iff_eq_none]

/-- A reply leaves a clear manager clear, and fails an attempt without a code exactly if it leads to
a place that cannot be read. -/
theorem Clear.receive (h : m.Clear) (now : Instant) (reply : Reply) {exchange : Exchange}
    (hexchange : m.exchange = some exchange) (hsome : m.dialog.isSome = true) :
    m.Clears (Event.replied reply).LeadsNowhere (m.receive now reply) := by
  obtain ⟨call, purpose⟩ := exchange
  obtain ⟨dialog, hdialog⟩ := Option.isSome_iff_exists.mp hsome
  have hlegible := h.legible hsome
  have hspells := h.spells dialog hdialog
  have htarget : (Sip.Uri.ofText? dialog.target).isSome = true := by
    rw [← hspells.read_of_legible hlegible]
    exact h.read dialog hdialog
  have hheeds := m.judgeReply_heeds now purpose reply
  have hruling := m.judgeReply_ruling now purpose reply
  rw [leadsNowhere_iff purpose]
  rcases hjudge : m.judgeReply now purpose reply with ⟨n, verdict⟩
  rw [hjudge] at hheeds hruling
  have hstays : verdict ≠ .resend → (Signal.heard purpose reply).redirection? = none := by
    intro hverdict
    cases hredirection : (Signal.heard purpose reply).redirection? with
    | none => rfl
    | some target => exact absurd (hruling.resend_of_redirection hredirection) hverdict
  have hnext := hheeds.dialog
  rw [hdialog, Option.map_some] at hnext
  simp only [Manager.receive, hexchange, hjudge]
  cases verdict with
  | done =>
    have hnone := hstays (by rintro ⟨⟩)
    have hclear : n.Clear := h.keeps hheeds.settings (by rw [hnext, hnone, hdialog]; rfl)
    cases purpose with
    | register => exact ⟨hclear.keeps rfl rfl, hheeds.settings, by intro error herror; cases herror⟩
    | unregister =>
      exact ⟨clear_of_no_dialog rfl, hheeds.settings, by intro error herror; cases herror⟩
  | fail error =>
    have hnone := hstays (by rintro ⟨⟩)
    refine ⟨clear_of_no_dialog rfl, hheeds.settings, ?_⟩
    intro told htold
    obtain rfl : told = error := by simpa [fail_eq, Effect.failure?] using htold
    simp only [hnone, reduceCtorEq, false_and, exists_const, iff_false]
    exact hruling.coded
  | resend =>
    have hsettings : n.settings = m.settings := hheeds.settings
    rw [← hsettings] at hlegible
    have hsent := resend_clears hnext
      (hsettings ▸ ⟨hspells.localParty, hspells.remoteParty, hspells.route⟩) hlegible call purpose
    refine ⟨hsent.clear, hsent.settings.trans hsettings, fun error herror => ?_⟩
    rw [hsent.tells error herror]
    cases hredirection : (Signal.heard purpose reply).redirection? with
    | some target => simp only [Option.getD_some, Option.some.injEq, exists_eq_left']
    | none => simp [Option.isSome_iff_ne_none.mp htarget]

end Manager

open Manager

variable {m n : Manager} {begun : List Origin} {joined : List Waiter} {served : List Turn}
  {effects : List Effect} {fired : CallId → Prop}

/-- A move leaves a clear manager clear, and tells of a failure without a code exactly if the
settings cannot be read. -/
theorem Move.clears (hmove : Move m begun joined served n effects) (h : m.Clear)
    (hm : m.Standing fired) : m.Clears (¬ m.settings.Legible) (n, effects) := by
  cases hmove with
  | arrive | fire | defer | conclude | redeem | proceed | decline | pass =>
    exact ⟨h.keeps rfl rfl, rfl, by intro error herror; cases herror⟩
  | work first rest work hfree _ hwork =>
    have hrest : { m with waiting := rest }.Clear := h.keeps rfl rfl
    cases work with
    | stop thenRegister =>
      exact ⟨clear_of_no_dialog rfl, rfl, by intro error herror; cases herror⟩
    | exchange purpose =>
      have hclears := hrest.startExchange first.call purpose fun hpurpose =>
        (hm.atRest hfree).registered_iff_dialog.mp (registered_of_work hwork hpurpose)
      exact ⟨hclears.clear, hclears.settings, hclears.tells⟩

/-- So do moves one after another. -/
theorem Moves.clears (hmoves : Moves m begun joined served n effects) (h : m.Clear)
    (hm : m.Standing fun _ => True) : m.Clears (¬ m.settings.Legible) (n, effects) := by
  induction hmoves with
  | refl => exact ⟨h, rfl, by intro error herror; cases herror⟩
  | cons hmove _ ih =>
    have hfirst := hmove.clears h hm
    have hrest := ih hfirst.clear (hmove.standing (fun _ _ => trivial) hm)
    refine ⟨hrest.clear, hrest.settings.trans hfirst.settings, ?_⟩
    intro error herror
    rw [List.filterMap_append, List.mem_append] at herror
    rcases herror with herror | herror
    · exact hfirst.tells error herror
    · exact hfirst.settings ▸ hrest.tells error herror

namespace Manager

/-- A new manager is clear. -/
theorem IsNew.clear {m : Manager} (hm : m.IsNew) : m.Clear := by
  obtain ⟨settings, bound, procedure, rfl⟩ := hm
  exact clear_of_no_dialog rfl

/-- A step leaves a clear manager clear, and tells of a failure without a code exactly if the
settings cannot be read or the event leads to a place that cannot be read. -/
theorem Clear.step {m : Manager} (h : m.Clear) (hm : m.Standing fun _ => True) (now : Instant)
    (event : Event) :
    m.Clears (¬ m.settings.Legible ∨ event.LeadsNowhere) (m.step now event) := by
  have hmoves (hevent : ∀ reply, event ≠ .replied reply) :
      m.Clears (¬ m.settings.Legible) (m.step now event) := (m.moves_step now hevent).clears h hm
  cases event with
  | replied reply =>
    change m.Clears _ (m.receive now reply)
    cases hexchange : m.exchange with
    | none =>
      rw [receive_of_no_exchange now reply hexchange]
      exact ⟨h, rfl, by intro error herror; cases herror⟩
    | some exchange =>
      have hdialog := (hm.underWay exchange hexchange).dialog
      have hlegible := h.legible hdialog
      simpa only [hlegible, not_true_eq_false, false_or] using h.receive now reply hexchange hdialog
  | called | granted | returned | fired =>
    simpa only [Event.LeadsNowhere, reduceCtorEq, false_and, exists_const, or_false] using
      hmoves (by simp)

/-- After every run a manager is clear and has the settings that it was created with. -/
theorem IsNew.clear_after {m : Manager} (hm : m.IsNew) (history : History) :
    (m.after history).Clear ∧ (m.after history).settings = m.settings := by
  refine after_induction (p := fun _ n => n.Clear ∧ n.settings = m.settings) m ⟨hm.clear, rfl⟩ ?_
    history
  rintro history now event ⟨hclear, hsettings⟩
  have hstanding := (hm.standing_after history).mono fun _ _ => trivial
  have hstep := hclear.step hstanding now event
  exact ⟨hstep.clear, hstep.settings.trans hsettings⟩

/-- **Which failures carry no code.** At every event of every run, an error that the listener is
told carries no registration code exactly if the settings cannot be read or the event is a 302 that
leads to a place that cannot be read. -/
theorem failure_without_code_iff {m : Manager} (hm : m.IsNew) (history : History) (now : Instant)
    (event : Event) {error : Error}
    (htold : error ∈ ((m.after history).step now event).2.filterMap Effect.failure?) :
    error.registrationFault? = none ↔ ¬ m.settings.Legible ∨ event.LeadsNowhere := by
  obtain ⟨hclear, hsettings⟩ := hm.clear_after history
  have hstanding := (hm.standing_after history).mono fun _ _ => trivial
  rw [← hsettings]
  exact (hclear.step hstanding now event).tells error htold

/-- In an example the registrar finds the lifetime too short and names no other, which fails the
attempt with a code. -/
theorem refused_lifetime_has_code_in_sample :
    ∃ error ∈ ((sample.after [(0, .called 0 .register)]).step 0
        (.replied (.response { status := 423 }))).2.filterMap Effect.failure?,
      error.registrationFault? ≠ none := by
  have htold : ((sample.after [(0, .called 0 .register)]).step 0
      (.replied (.response { status := 423 }))).2.filterMap Effect.failure? =
        [.registration .unexpectedResponse "423 without Min-Expires"] := by
    decide +kernel
  have hlegible : sample.settings.Legible :=
    ⟨by decide +kernel, by decide +kernel, by decide +kernel⟩
  have hmem := List.mem_singleton_self
    (Error.registration .unexpectedResponse "423 without Min-Expires")
  rw [← htold] at hmem
  refine ⟨_, hmem, ?_⟩
  rw [ne_eq, failure_without_code_iff sample_isNew _ _ _ hmem]
  rintro (hnot | ⟨reply, target, heq, hredirection, _⟩)
  · exact hnot hlegible
  · cases heq
    cases hredirection

/-- A manager for an example whose identity is no URI. -/
def misnamed : Manager :=
  create { homeDomain := "a", publicUri := "not a uri" } ⟨.v4 [10, 0, 0, 2], 5060⟩ .giba

/-- **A failure without a code.** The settings of the example pass their check, but the first call
to register tells the listener of a failure that carries no registration code. -/
theorem uncoded_failure_of_checked_settings :
    misnamed.settings.validate = .ok () ∧
      ∃ error ∈ (misnamed.trace [(0, .called 0 .register)]).filterMap Effect.failure?,
        error.registrationFault? = none := by
  decide +kernel

end Manager

end Registration

end ImsClient
