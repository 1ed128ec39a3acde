import ImsClient.Proofs.Digest.Credentials
import ImsClient.Proofs.Registration.Ruling
import ImsClient.Proofs.Settings.Validation

/-!
# The wire law of the registration

The requests that a manager hands to the transport come in blocks, one for each
dialog that it opened. A dialog is counted on wherever a request is about to be
composed, and dropped wherever an attempt fails or ends; so a manager always keeps
account of its traffic: its dialog is that of the last block, one number ahead while
a request is due, and the lifetime that it asks for is the one that was learnt.
-/

namespace ImsClient

namespace Supply

/-- A supply gave an identifier earlier. -/
def Gave (supply : Supply) (id : Identifier) : Prop :=
  ∃ number use, id = .drawn ⟨supply.label, number⟩ use ∧ number < supply.taken

/-- A supply comes from another one by draws. -/
structure Reaches (supply next : Supply) : Prop where
  label : next.label = supply.label
  taken : supply.taken ≤ next.taken

variable {supply next : Supply} {id : Identifier}

/-- No draw at all. -/
theorem Reaches.refl (supply : Supply) : supply.Reaches supply := ⟨rfl, Nat.le_refl _⟩

/-- One draw after others. -/
theorem Reaches.draw (h : supply.Reaches next) (use : Identifier.Use) :
    supply.Reaches (next.draw use).2 := ⟨h.label, Nat.le_succ_of_le h.taken⟩

/-- What was given once was given earlier. -/
theorem Gave.mono (hgave : supply.Gave id) (hreaches : supply.Reaches next) : next.Gave id := by
  obtain ⟨number, use, rfl, hnumber⟩ := hgave
  exact ⟨number, use, by rw [hreaches.label], Nat.lt_of_lt_of_le hnumber hreaches.taken⟩

/-- A draw gives what was not given before. -/
theorem draw_not_given (supply : Supply) (use : Identifier.Use) :
    ¬ supply.Gave (supply.draw use).1 := by
  rintro ⟨number, other, hsame, hnumber⟩
  cases hsame
  exact Nat.lt_irrefl _ hnumber

/-- What is drawn is given from then on. -/
theorem gave_draw (supply : Supply) (use : Identifier.Use) :
    (supply.draw use).2.Gave (supply.draw use).1 :=
  ⟨supply.taken, use, rfl, Nat.lt_succ_self _⟩

end Supply

namespace Registration

/-! ### Requests -/

/-- A procedure that writes a proof into a request leaves it a request of the same dialog, with the
same lifetime. -/
theorem Procedure.carries_of_write {procedure : Procedure} {request written : Sip.Request}
    {dialog : Dialog} (hwritten : (procedure.write request).1 = .ok written)
    (hcarries : dialog.Carries request) :
    dialog.Carries written ∧ written.expires? = request.expires? := by
  induction procedure with
  | giba =>
    cases hwritten
    exact ⟨hcarries, rfl⟩
  | digest agent realm =>
    cases hwritten
    refine ⟨hcarries.replace ?_, Sip.Headers.findSome?_replace "Expires" ?_ ?_⟩
    · rw [authorization_name]
      decide
    · rintro (_ | _) _ hother <;> first | rfl | cases hother
    · rw [authorization_name]
      decide
  | faulty writes reads inner ih =>
    rcases writes with _ | ⟨_ | text, writes⟩
    · exact ih hwritten
    · exact ih hwritten
    · cases hwritten

namespace Manager

/-- A request that is composed is one of the dialog at its present number. It asks for no lifetime
if it takes the binding away, and for the lifetime of the manager otherwise. -/
theorem compose_carries (m : Manager) (purpose : Purpose) :
    m.supply.Reaches (m.compose purpose).2.supply ∧
      ∀ request, (m.compose purpose).1 = .ok request → ∃ dialog, m.dialog = some dialog ∧
        dialog.Carries request ∧
        request.expires? = some (if purpose.isUnregister then 0 else m.expiry) := by
  unfold compose
  cases m.dialog with
  | none => exact ⟨.refl _, by simp⟩
  | some dialog =>
    dsimp only
    generalize (if purpose.isUnregister = true then 0 else m.expiry) = expiry
    cases hregister : dialog.register m.bound expiry m.settings.instanceId m.settings.featureTags
        m.supply with
    | error e => exact ⟨.refl _, by simp⟩
    | ok made =>
      obtain ⟨made, supply⟩ := made
      obtain ⟨hcarries, hasks, rfl⟩ := Dialog.carries_of_register hregister
      dsimp only
      have hreaches := (Supply.Reaches.refl m.supply).draw .branch
      cases hwrite : (m.procedure.write made).1 with
      | error e => exact ⟨hreaches, by simp⟩
      | ok written =>
        refine ⟨hreaches, ?_⟩
        rintro request ⟨⟩
        obtain ⟨hwritten, hsame⟩ := Procedure.carries_of_write hwrite hcarries
        exact ⟨dialog, rfl, hwritten, hsame.trans hasks⟩

/-- Another manager differs at most by what a signal taught: a 302 where the dialog leads, and a 423
the lifetime to ask for. -/
structure Heeds (m n : Manager) (signal : Signal) : Prop where
  settings : n.settings = m.settings
  supply : n.supply = m.supply
  expiry : n.expiry = signal.minimum?.getD m.expiry
  dialog : n.dialog = m.dialog.map fun dialog =>
    { dialog with target := signal.redirection?.getD dialog.target }

/-- Nothing is learnt from a signal that teaches nothing. -/
theorem Keeps.heeds {m n : Manager} {signal : Signal} (h : m.Keeps n)
    (hminimum : signal.minimum? = none) (hredirection : signal.redirection? = none) :
    m.Heeds n signal := by
  refine ⟨h.settings, h.supply, ?_, ?_⟩
  · rw [hminimum, h.expiry, Option.getD_none]
  · rw [hredirection, h.dialog]
    cases m.dialog <;> rfl

/-- Whatever is made of a reply heeds it. -/
theorem Ruling.heeds {m n : Manager} {now : Instant} {purpose : Purpose} {reply : Reply}
    {verdict : Verdict} (h : Ruling m now purpose reply n verdict) :
    m.Heeds n (.heard purpose reply) := by
  cases h with
  | granted hstatus =>
    exact Keeps.heeds ⟨rfl, rfl, rfl, rfl⟩ (minimum?_of_status _ (by simp [hstatus]))
      (redirection?_of_status _ (by simp [hstatus]))
  | released hstatus =>
    exact Keeps.heeds ⟨rfl, rfl, rfl, rfl⟩ rfl (redirection?_of_status _ (by simp [hstatus]))
  | redirected hstatus hcontacts =>
    refine ⟨rfl, rfl, ?_, ?_⟩
    · rw [minimum?_of_status purpose (by simp [hstatus]), Option.getD_none]
    · simp [Signal.redirection?, hstatus, hcontacts]
  | challenged hstatus =>
    exact Keeps.heeds ⟨rfl, rfl, rfl, rfl⟩ (minimum?_of_status _ (by simp [hstatus]))
      (redirection?_of_status _ (by simp [hstatus]))
  | adopted hstatus hseconds =>
    refine ⟨rfl, rfl, ?_, ?_⟩
    · simp [Signal.minimum?, hstatus, hseconds]
    · rw [redirection?_of_status _ (by simp [hstatus])]
      cases m.dialog <;> rfl
  | rejected hstatus =>
    refine Keeps.heeds ⟨rfl, rfl, rfl, rfl⟩ (minimum?_of_status _ ?_)
      (redirection?_of_status _ ?_)
    · intro h
      simp [h, isRetried] at hstatus
    · intro h
      simp [h, isRetried] at hstatus
  | failed _ _ hkeeps hminimum hredirection _ => exact hkeeps.heeds hminimum hredirection

/-- Every reply is heeded. -/
theorem judgeReply_heeds (m : Manager) (now : Instant) (purpose : Purpose) (reply : Reply) :
    m.Heeds (m.judgeReply now purpose reply).1 (.heard purpose reply) :=
  (m.judgeReply_ruling now purpose reply).heeds

end Manager

/-! ### The account -/

namespace Block

/-- The block with one signal more. -/
def add (block : Block) (signal : Signal) : Block :=
  { block with traffic := block.traffic ++ [signal] }

/-- The block of a dialog in which nothing passed yet. -/
def ofDialog (dialog : Dialog) : Block := { callId := dialog.callId, tag := dialog.localTag }

/-- A dialog is that of a block, with a number that counts the requests of the block and those that
are due. -/
structure IsOf (home : String) (due : Nat) (block : Block) (dialog : Dialog) : Prop where
  callId : dialog.callId = block.callId
  tag : dialog.localTag = block.tag
  cSeq : dialog.cSeq = block.traffic.requests.length + due
  pos : 0 < dialog.cSeq
  target : dialog.target = block.traffic.target home

/-- A block stays lawful with one more signal, if it goes on with a request that is the next one,
or with a reply that is not its first signal. -/
theorem Lawful.add {home : String} {block : Block} {signal : Signal} (h : block.Lawful home)
    (hopens : block.traffic = [] → ∃ purpose request, signal = .sent purpose request)
    (hcontinues : ∀ purpose request, signal = .sent purpose request →
      block.Continues home block.traffic request) : (block.add signal).Lawful home where
  opens first rest hsplit := by
    rcases htraffic : block.traffic with _ | ⟨other, traffic⟩
    · simp only [Block.add, htraffic, List.nil_append, List.cons.injEq] at hsplit
      exact hsplit.1 ▸ hopens htraffic
    · simp only [Block.add, htraffic, List.cons_append, List.cons.injEq] at hsplit
      exact hsplit.1 ▸ h.opens other traffic htraffic
  continues := by
    have hsame {before : Traffic} {request : Sip.Request}
        (hb : block.Continues home before request) :
        (block.add signal).Continues home before request :=
      ⟨hb.callId, hb.sender, hb.cSeq, hb.uri, hb.text⟩
    refine Traffic.Throughout.concat ?_ fun purpose request hsignal =>
      hsame (hcontinues purpose request hsignal)
    intro before other rest hsplit purpose request hother
    exact hsame (h.continues before other rest hsplit purpose request hother)

/-- A request of the dialog of a block is the next one of the block. -/
theorem IsOf.continues {home : String} {block : Block} {dialog : Dialog} {request : Sip.Request}
    (h : block.IsOf home 1 dialog) (hcarries : dialog.Carries request) :
    block.Continues home block.traffic request := by
  have huri : Sip.Uri.ofText? (block.traffic.target home) = some request.uri :=
    h.target ▸ hcarries.uri
  refine ⟨?_, ?_, ?_, huri, fun hreprints => hreprints _ huri⟩
  · exact h.callId ▸ hcarries.callId
  · exact h.tag ▸ hcarries.sender
  · exact h.cSeq ▸ hcarries.cSeq

/-- The request that was due is one of those of the block once it is sent. -/
theorem IsOf.sent {home : String} {block : Block} {dialog : Dialog} (h : block.IsOf home 1 dialog)
    (purpose : Purpose) (request : Sip.Request) :
    (block.add (.sent purpose request)).IsOf home 0 dialog where
  callId := h.callId
  tag := h.tag
  cSeq := by simp [h.cSeq, add, Traffic.requests, Signal.request?]
  pos := h.pos
  target := by
    rw [h.target]
    simp [add, Traffic.target, Traffic.latest_concat, Signal.redirection?]

/-- The dialog goes on to the place that a reply names, if it names one. -/
theorem IsOf.heard {home : String} {block : Block} {dialog : Dialog} (h : block.IsOf home 0 dialog)
    (purpose : Purpose) (reply : Reply) :
    (block.add (.heard purpose reply)).IsOf home 0
      { dialog with
        target := ((Signal.heard purpose reply).redirection?).getD dialog.target } where
  callId := h.callId
  tag := h.tag
  cSeq := by simp [h.cSeq, add, Traffic.requests, Signal.request?]
  pos := h.pos
  target := by simp only [h.target, add, Traffic.target, Traffic.latest_concat]

/-- A dialog with a number, and no request due, is that of a block in which there was some
traffic. -/
theorem IsOf.traffic_ne_nil {home : String} {block : Block} {dialog : Dialog}
    (h : block.IsOf home 0 dialog) : block.traffic ≠ [] := by
  intro hnil
  have hpos := h.pos
  rw [h.cSeq, hnil] at hpos
  exact Nat.lt_irrefl 0 hpos

end Block

/-- The traffic of blocks one after another. -/
def Block.joined (blocks : List Block) : Traffic := blocks.flatMap Block.traffic

/-- A block in which nothing passed adds nothing. -/
theorem Block.joined_ofDialog (blocks : List Block) (dialog : Dialog) :
    joined (blocks ++ [ofDialog dialog]) = joined blocks := by
  simp [joined, ofDialog]

/-- Blocks in which nothing passed can be left out. -/
theorem Block.joined_filter (blocks : List Block) :
    joined (blocks.filter fun block => !block.traffic.isEmpty) = joined blocks := by
  unfold joined
  induction blocks with
  | nil => rfl
  | cons block blocks ih =>
    rw [List.filter_cons, List.flatMap_cons]
    cases htraffic : block.traffic with
    | nil => simpa using ih
    | cons signal traffic => simpa [htraffic] using ih

/-- One more signal in the last block is one more signal at the end. -/
theorem Block.joined_add (earlier : List Block) (block : Block) (signal : Signal) :
    joined (earlier ++ [block.add signal]) = joined (earlier ++ [block]) ++ [signal] := by
  simp [joined, add]

/-- The request of every signal asks for no lifetime if it takes the binding away, and otherwise
for the one that was learnt last, or the configured one. -/
def Traffic.Asks (configured : Nat) (traffic : Traffic) : Prop :=
  traffic.Throughout fun before signal => ∀ purpose request, signal = .sent purpose request →
    request.expires? = some (if purpose.isUnregister then 0 else before.lifetime configured)

namespace Manager

/-- How a manager accounts for its traffic: it is that of lawful blocks, whose Call-IDs the supply
gave one by one; the dialog is that of the last block, and the lifetime the one that was learnt. -/
structure Account (m : Manager) (settings : Settings) (blocks : List Block) (due : Nat) : Prop where
  same : m.settings = settings
  lawful : ∀ block ∈ blocks, block.Lawful settings.homeUri
  distinct : (blocks.map Block.callId).Nodup
  gave : ∀ block ∈ blocks, m.supply.Gave block.callId
  dialog : ∀ dialog, m.dialog = some dialog → ∃ earlier block, blocks = earlier ++ [block] ∧
    block.IsOf settings.homeUri due dialog
  expiry : m.expiry = (Block.joined blocks).lifetime settings.registrationExpiry
  asks : (Block.joined blocks).Asks settings.registrationExpiry

namespace Account

variable {m n : Manager} {settings : Settings} {blocks : List Block} {due : Nat}

/-- Another manager has the same account if it has no other dialog and goes on with the supply. -/
theorem mono (h : m.Account settings blocks due) (hsettings : n.settings = m.settings)
    (hexpiry : n.expiry = m.expiry) (hsupply : m.supply.Reaches n.supply)
    (hdialog : ∀ dialog, n.dialog = some dialog → m.dialog = some dialog) :
    n.Account settings blocks due where
  same := hsettings.trans h.same
  lawful := h.lawful
  distinct := h.distinct
  gave block hblock := (h.gave block hblock).mono hsupply
  dialog dialog hd := h.dialog dialog (hdialog dialog hd)
  expiry := hexpiry.trans h.expiry
  asks := h.asks

/-- Nothing else counts for the account. -/
theorem keeps (h : m.Account settings blocks due) (hkeeps : m.Keeps n) :
    n.Account settings blocks due :=
  h.mono hkeeps.settings hkeeps.expiry (hkeeps.supply ▸ .refl _)
    fun _ hdialog => hkeeps.dialog ▸ hdialog

/-- Without a dialog, no request is due. -/
theorem idle (h : m.Account settings blocks due) (hdialog : m.dialog = none) :
    m.Account settings blocks 0 :=
  { h with dialog := fun dialog hd => by cases hdialog.symm.trans hd }

/-- The dialog is moved on to the request that is due. -/
theorem advance (h : m.Account settings blocks 0) :
    { m with dialog := m.dialog.map Dialog.advance }.Account settings blocks 1 :=
  { h with
    dialog := fun dialog hdialog => by
      obtain ⟨before, hbefore, rfl⟩ := Option.map_eq_some_iff.mp hdialog
      obtain ⟨earlier, block, hblocks, hof⟩ := h.dialog before hbefore
      refine ⟨earlier, block, hblocks, hof.callId, hof.tag, ?_, Nat.succ_pos _, hof.target⟩
      rw [Dialog.advance_cSeq, hof.cSeq] }

/-- A new dialog opens a new block, and its first request is due. -/
theorem opened (h : m.Account settings blocks due) {dialog : Dialog}
    (hdialog : n.dialog = some dialog) (hcSeq : dialog.cSeq = 1)
    (htarget : dialog.target = settings.homeUri) (hsettings : n.settings = m.settings)
    (hexpiry : n.expiry = m.expiry) (hsupply : m.supply.Reaches n.supply)
    (hnew : ¬ m.supply.Gave dialog.callId) (hgave : n.supply.Gave dialog.callId) :
    n.Account settings (blocks ++ [.ofDialog dialog]) 1 where
  same := hsettings.trans h.same
  lawful := by
    refine List.forall_mem_append.mpr ⟨h.lawful, List.forall_mem_singleton.mpr ?_⟩
    exact ⟨by simp [Block.ofDialog], Traffic.throughout_nil _⟩
  distinct := by
    rw [List.map_append, List.nodup_append]
    refine ⟨h.distinct, by simp, ?_⟩
    rintro _ hold _ hlast rfl
    obtain ⟨block, hblock, hsame⟩ := List.mem_map.mp hold
    rw [List.map_singleton, List.mem_singleton] at hlast
    have hgiven := h.gave block hblock
    rw [hsame, hlast] at hgiven
    exact hnew hgiven
  gave := by
    refine List.forall_mem_append.mpr ⟨?_, List.forall_mem_singleton.mpr hgave⟩
    exact fun block hblock => (h.gave block hblock).mono hsupply
  dialog other hother := by
    cases hdialog.symm.trans hother
    exact ⟨blocks, .ofDialog dialog, rfl, rfl, rfl, hcSeq, hcSeq ▸ Nat.one_pos, htarget⟩
  expiry := by
    rw [Block.joined_ofDialog]
    exact hexpiry.trans h.expiry
  asks := by
    rw [Block.joined_ofDialog]
    exact h.asks

/-- A manager that opens a dialog has its first request due. -/
theorem prepareDialog (h : m.Account settings blocks 0) (hdialog : m.dialog = none) :
    ∃ blocks', m.prepareDialog.Account settings blocks' 1 ∧
      Block.joined blocks' = Block.joined blocks := by
  rw [prepareDialog_of_none hdialog]
  have hgave := (m.supply.gave_draw (.call m.bound.ip.text)).mono
    ((Supply.Reaches.refl _).draw .tag)
  have hreaches := ((Supply.Reaches.refl m.supply).draw (.call m.bound.ip.text)).draw .tag
  exact ⟨_, h.opened rfl rfl (by rw [h.same]) rfl rfl hreaches (m.supply.draw_not_given _) hgave,
    Block.joined_ofDialog blocks _⟩

/-- One more signal of the last block is accounted for. -/
theorem add {earlier : List Block} {block : Block} {signal : Signal}
    (h : m.Account settings (earlier ++ [block]) due)
    (hlawful : (block.add signal).Lawful settings.homeUri) (hsettings : n.settings = m.settings)
    (hsupply : m.supply.Reaches n.supply) (hexpiry : n.expiry = signal.minimum?.getD m.expiry)
    (hdialog : ∀ dialog, n.dialog = some dialog →
      (block.add signal).IsOf settings.homeUri 0 dialog)
    (hasks : ∀ purpose request, signal = .sent purpose request →
      request.expires? = some (if purpose.isUnregister then 0 else m.expiry)) :
    n.Account settings (earlier ++ [block.add signal]) 0 where
  same := hsettings.trans h.same
  lawful := by
    have hlawfuls := List.forall_mem_append.mp h.lawful
    exact List.forall_mem_append.mpr ⟨hlawfuls.1, List.forall_mem_singleton.mpr hlawful⟩
  distinct := by simpa [Block.add] using h.distinct
  gave := by
    obtain ⟨hearlier, hblock⟩ := List.forall_mem_append.mp h.gave
    refine List.forall_mem_append.mpr ⟨fun other hother => (hearlier other hother).mono hsupply, ?_⟩
    exact List.forall_mem_singleton.mpr ((List.forall_mem_singleton.mp hblock).mono hsupply)
  dialog dialog hn := ⟨earlier, _, rfl, hdialog dialog hn⟩
  expiry := by
    rw [Block.joined_add, Traffic.lifetime, Traffic.latest_concat, hexpiry, h.expiry]
    rfl
  asks := by
    rw [Block.joined_add]
    refine h.asks.concat fun purpose request hsignal => ?_
    rw [hasks purpose request hsignal, h.expiry]

/-- The request that is due is accounted for once it is composed. -/
theorem compose (h : m.Account settings blocks 1) {purpose : Purpose} {request : Sip.Request}
    (hrequest : (m.compose purpose).1 = .ok request) :
    ∃ blocks', (m.compose purpose).2.Account settings blocks' 0 ∧
      Block.joined blocks' = Block.joined blocks ++ [.sent purpose request] := by
  obtain ⟨hreaches, hcarries⟩ := m.compose_carries purpose
  obtain ⟨procedure, supply, huses⟩ := m.compose_uses purpose
  obtain ⟨dialog, hdialog, hmade, hasks⟩ := hcarries request hrequest
  obtain ⟨earlier, block, rfl, hof⟩ := h.dialog dialog hdialog
  rw [huses] at hreaches ⊢
  refine ⟨_, h.add ?_ rfl hreaches rfl ?_ ?_, Block.joined_add earlier block _⟩
  · refine (h.lawful block (by simp)).add (fun _ => ⟨purpose, request, rfl⟩) ?_
    rintro _ _ ⟨⟩
    exact hof.continues hmade
  · intro other hother
    cases hdialog.symm.trans hother
    exact hof.sent purpose request
  · rintro _ _ ⟨⟩
    exact hasks

/-- A reply that is heard is accounted for. -/
theorem hear (h : m.Account settings blocks 0) (hdialog : m.dialog.isSome = true)
    {purpose : Purpose} {reply : Reply} (hheeds : m.Heeds n (.heard purpose reply)) :
    ∃ blocks', n.Account settings blocks' 0 ∧
      Block.joined blocks' = Block.joined blocks ++ [.heard purpose reply] := by
  obtain ⟨dialog, hdialog⟩ := Option.isSome_iff_exists.mp hdialog
  obtain ⟨earlier, block, rfl, hof⟩ := h.dialog dialog hdialog
  refine ⟨_, h.add ?_ hheeds.settings (hheeds.supply ▸ .refl _) hheeds.expiry ?_ (by rintro _ _ ⟨⟩),
    Block.joined_add earlier block _⟩
  · refine (h.lawful block (by simp)).add (fun hnil => ?_) (by rintro _ _ ⟨⟩)
    exact absurd hnil hof.traffic_ne_nil
  · intro other hother
    rw [hheeds.dialog, hdialog] at hother
    cases hother
    exact hof.heard purpose reply

/-- Without its dialog a manager has the same account. -/
theorem dropped (h : m.Account settings blocks due) :
    { m with dialog := none }.Account settings blocks 0 :=
  idle (h.mono rfl rfl (.refl _) (by rintro _ ⟨⟩)) rfl

end Account

/-- A manager that keeps account of its traffic does so whatever happens. -/
theorem keptUp_account (settings : Settings) :
    KeptUp fun due traffic m =>
      ∃ blocks, m.Account settings blocks due ∧ Block.joined blocks = traffic where
  keeps := by
    rintro due traffic m n ⟨blocks, h, rfl⟩ hkeeps _
    exact ⟨blocks, h.keeps hkeeps, rfl⟩
  drops := by
    rintro due traffic m ⟨blocks, h, rfl⟩
    exact ⟨blocks, h.dropped, rfl⟩
  opens := by
    rintro traffic m ⟨blocks, h, rfl⟩ hdialog
    exact h.prepareDialog hdialog
  advances := by
    rintro traffic m ⟨blocks, h, rfl⟩
    exact ⟨blocks, h.advance, rfl⟩
  sends := by
    rintro traffic m purpose request ⟨blocks, h, rfl⟩ hrequest
    exact h.compose hrequest
  refuses := by
    rintro traffic m purpose error ⟨blocks, h, rfl⟩ _
    have hreaches := (m.compose_carries purpose).1
    obtain ⟨procedure, supply, huses⟩ := m.compose_uses purpose
    rw [huses] at hreaches ⊢
    exact ⟨blocks, h.mono rfl rfl hreaches (fun _ hdialog => hdialog), rfl⟩
  hears := by
    rintro traffic m now purpose reply ⟨blocks, h, rfl⟩ hdialog _
    exact h.hear hdialog (m.judgeReply_heeds now purpose reply)
  fails := by
    rintro traffic m error now purpose reply ⟨blocks, h, rfl⟩ hdialog _
    obtain ⟨blocks', hheard, hjoined⟩ := h.hear hdialog (m.judgeReply_heeds now purpose reply)
    exact ⟨blocks', hheard.dropped, hjoined⟩

/-- A new manager has nothing to account for. -/
theorem IsNew.account {m : Manager} (hm : m.IsNew) : m.Account m.settings [] 0 := by
  obtain ⟨settings, bound, procedure, rfl⟩ := hm
  exact ⟨rfl, by simp, by simp, by simp, by simp [create], rfl, Traffic.throughout_nil _⟩

/-- A new manager accounts for the traffic of every run. -/
theorem IsNew.account_after {m : Manager} (hm : m.IsNew) (history : History) :
    ∃ blocks, (m.after history).Account m.settings blocks 0 ∧
      Block.joined blocks = m.traffic history ∧
      (m.traffic history).requests = (m.trace history).filterMap Effect.sent? := by
  obtain ⟨blocks, haccount, hjoined⟩ :=
    (keptUp_account m.settings).after hm ⟨[], hm.account, rfl⟩ history
  exact ⟨blocks, haccount, hjoined, m.requests_traffic history⟩

/-- **The wire law.** With settings that were checked, the traffic of every run of a manager is that
of blocks one after another, and no two blocks have the same Call-ID. Every block begins with a
request; its requests have the Call-ID and the tag of the block and are numbered 1, 2, 3 and so on;
and each leads to the home domain, or to the place that the latest 302 of the block named first.
A request asks for no lifetime if it takes the binding away, and otherwise for the one that the
latest 423 to a REGISTER asked for, or else the configured one, which is positive. -/
theorem traffic_lawful {m : Manager} (hm : m.IsNew) (hvalid : m.settings.validate = .ok ())
    (history : History) :
    ∃ blocks : List Block,
      m.traffic history = blocks.flatMap Block.traffic ∧
      (m.traffic history).requests = (m.trace history).filterMap Effect.sent? ∧
      (blocks.map Block.callId).Nodup ∧
      (∀ block ∈ blocks, block.traffic ≠ [] ∧ block.Lawful m.settings.homeUri) ∧
      ∀ (before : Traffic) purpose request rest,
        m.traffic history = before ++ .sent purpose request :: rest →
          request.expires? = some (if purpose.isUnregister then 0
            else before.lifetime m.settings.registrationExpiry) ∧
          0 < before.lifetime m.settings.registrationExpiry := by
  obtain ⟨blocks, haccount, hjoined, hrequests⟩ := hm.account_after history
  refine ⟨blocks.filter fun block => !block.traffic.isEmpty, ?_, hrequests, ?_, ?_, ?_⟩
  · exact hjoined.symm.trans (Block.joined_filter blocks).symm
  · exact (List.filter_sublist.map Block.callId).nodup haccount.distinct
  · intro block hblock
    obtain ⟨hmem, hpassed⟩ := List.mem_filter.mp hblock
    exact ⟨by simpa using hpassed, haccount.lawful block hmem⟩
  · intro before purpose request rest hsplit
    refine ⟨?_, Traffic.lifetime_pos (Settings.expiry_pos_of_validate hvalid) before⟩
    exact haccount.asks before _ rest (hjoined.trans hsplit) purpose request rfl

/-- An example: the REGISTER is sent elsewhere, asks for too short a lifetime there, and succeeds;
the registration is taken back and made anew. -/
def sampleSent : History :=
  [(0, .called 0 .register),
    (1, .replied (.response
      { status := 302
        headers := [.contact [{ uri := .parts .sip none (.domain "c") none [] [] }]] })),
    (2, .replied (.response { status := 423, headers := [.raw "Min-Expires" "7200"] })),
    (3, .replied .accepted), (3, .returned 0), (4, .called 1 .unregister), (5, .replied .accepted),
    (5, .returned 1), (6, .called 2 .register)]

/-- In the example, there are two dialogs, and the lifetime that was learnt in the first one is
asked for in the second one. -/
theorem two_blocks_in_sample :
    sample.settings.validate = .ok () ∧
      (sample.traffic sampleSent).requests.map Sip.Request.cSeq? =
        [some 1, some 2, some 3, some 4, some 1] ∧
      (sample.traffic sampleSent).requests.map Sip.Request.expires? =
        [some 3600, some 3600, some 7200, some 0, some 7200] ∧
      ∃ blocks : List Block, sample.traffic sampleSent = blocks.flatMap Block.traffic ∧
        (blocks.map Block.callId).Nodup ∧
        ∀ block ∈ blocks, block.traffic ≠ [] ∧ block.Lawful sample.settings.homeUri := by
  have hvalid : sample.settings.validate = .ok () := by decide +kernel
  obtain ⟨blocks, htraffic, _, hdistinct, hlawful, _⟩ :=
    traffic_lawful sample_isNew hvalid sampleSent
  exact ⟨hvalid, by decide +kernel, by decide +kernel, blocks, htraffic, hdistinct, hlawful⟩

end Manager

end Registration

end ImsClient
