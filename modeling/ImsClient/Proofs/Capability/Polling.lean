import ImsClient.Capability.Polling
import ImsClient.Capability.Scan
import ImsClient.Proofs.Time.Refresher

/-!
# Polling goes on until it is stopped

Polling keeps its timer in a refresher: a task that calls begins a round, and the call
lasts as long as the scan of the round. While polling runs, a timer is pending or a
round is in progress that will arm one at its end; once polling is stopped, no timer
is pending. A round that was in progress when polling was stopped and started again
arms the timer anew when it ends, in place of the one that the start armed, so there
is never more than one.
-/

namespace ImsClient

namespace Refresher

/-- A task calls the owner, and nothing ends the call but the owner. -/
def IsCalling (r : Refresher) (generation : Nat) : Prop :=
  ∃ task ∈ r.tasks, task.generation = generation ∧ task.phase = .calling ∧ task.aborted = false

variable {r : Refresher} {generation now : Nat}

/-- A call goes on as long as the task that makes it does. -/
theorem IsCalling.keep (hcall : r.IsCalling generation) {next : Refresher}
    (hkeep : ∀ task ∈ r.tasks, task.phase = .calling → task.generation = generation →
      task ∈ next.tasks) : next.IsCalling generation := by
  obtain ⟨task, htask, hsame, hphase, haborted⟩ := hcall
  exact ⟨task, hkeep task htask hphase hsame, hsame, hphase, haborted⟩

/-- A task that begins to call the owner did not call it before, and then calls it. -/
theorem Sound.isCalling_of_poll (h : r.Sound) (hcalls : (r.poll now generation).2 = true) :
    ¬ r.IsCalling generation ∧ (r.poll now generation).1.IsCalling generation := by
  rcases h.poll_cases now generation with
    ⟨slot, hslot, rfl, _, heq⟩ | ⟨_, _, _, _, heq⟩ | ⟨heq, _⟩
  · rw [heq]
    constructor
    · rintro ⟨task, htask, hsame, hphase, _⟩
      rw [h.eq_sleeper hslot htask hsame] at hphase
      cases hphase
    · refine ⟨{ slot.sleeper with phase := .calling }, ?_, rfl, rfl, rfl⟩
      exact mem_changed.mpr ⟨slot.sleeper, h.sleeper_mem hslot, by simp [Slot.sleeper]⟩
  · rw [heq] at hcalls
    cases hcalls
  · rw [heq] at hcalls
    cases hcalls

/-- As many tasks wait as the timer has pending. -/
theorem Sound.length_live (h : r.Sound) :
    (r.tasks.filter Task.isLive).length = if r.timer.isPending then 1 else 0 := by
  rw [h.live]
  cases hslot : r.slot <;> simp [timer, Timer.isPending, hslot]

end Refresher

namespace Capability

namespace Polling

/-- Polling that is enabled runs once it is started. -/
theorem running_start {p : Polling} (henabled : p.isEnabled = true) (now : Instant) :
    (p.start now).running = true := by
  unfold start
  cases hrunning : p.running with
  | true => simp [hrunning]
  | false => simp [henabled]

/-- To start polling keeps its period. -/
@[simp] theorem isEnabled_start (p : Polling) (now : Instant) :
    (p.start now).isEnabled = p.isEnabled := by
  unfold start
  split <;> rfl

/-- A round that begins neither starts nor stops polling. -/
theorem fire_keeps (p : Polling) (now round : Nat) :
    (p.fire now round).1.running = p.running ∧ (p.fire now round).1.isEnabled = p.isEnabled := by
  unfold fire beginRound
  split
  · dsimp only
    split <;> exact ⟨rfl, rfl⟩
  · exact ⟨rfl, rfl⟩

/-- A round that ends neither starts nor stops polling. -/
theorem endRound_keeps (p : Polling) (now : Instant) (round : Nat) :
    (p.endRound now round).running = p.running ∧
      (p.endRound now round).isEnabled = p.isEnabled := by
  unfold endRound
  dsimp only
  split <;> exact ⟨rfl, rfl⟩

/-- Polling is enabled by a period that is not zero. -/
theorem isEnabled_create (settings : Settings) :
    (create settings).isEnabled = true ↔ 0 < settings.pollingPeriod := by
  have hzero : Duration.ofMilliseconds settings.pollingPeriod = Duration.zero ↔
      settings.pollingPeriod = 0 := by
    constructor
    · intro h
      have hnanoseconds : settings.pollingPeriod * 1_000_000 = 0 :=
        congrArg Duration.nanoseconds h
      omega
    · intro h
      rw [h]
      rfl
  simp only [isEnabled, create, Settings.pollingTime, bne_iff_ne, ne_eq, hzero]
  omega

end Polling

/-- Polling, with the refresher that keeps its timer. -/
structure Poller where
  polling : Polling
  refresher : Refresher := {}

namespace Poller

/-- What may happen next: somebody starts or stops polling, be it during a scan or not, a task of
the timer is run, or the scan of a round ends, well or not. -/
inductive Moment where
  | started (now : Instant)
  | stopped
  | polled (now task : Nat)
  | scanned (now : Instant) (round : Nat) (result : Except Error Report)

namespace Moment

/-- Whether polling is started. -/
def isStart : Moment → Bool
  | started _ => true
  | _ => false

/-- Whether polling is wanted after a moment: it was started, and not stopped since. -/
def wanted (earlier : Bool) : Moment → Bool
  | started _ => true
  | stopped => false
  | _ => earlier

end Moment

def create (settings : Settings) : Poller := { polling := .create settings }

/-- What comes of a moment, with the round whose scan begins. A round has the name of its task; its
end is the end of the call that the task made, and plans the next round however the scan ended. -/
def step (p : Poller) : Moment → Poller × List Nat
  | .started now =>
    if p.polling.isEnabled && !p.polling.running then
      ({ polling := p.polling.start now
         refresher := p.refresher.start now p.polling.period }, [])
    else (p, [])
  | .stopped => ({ polling := p.polling.stop, refresher := p.refresher.stop }, [])
  | .polled now task =>
    match p.refresher.poll now task with
    | (refresher, false) => ({ p with refresher }, [])
    | (refresher, true) =>
      match p.polling.fire now task with
      | (polling, true) => ({ polling, refresher }, [task])
      | (polling, false) => ({ polling, refresher := refresher.returned task }, [])
  | .scanned now round _ =>
    if round ∈ p.polling.rounds then
      let refresher :=
        if p.polling.running && p.polling.isEnabled then
          p.refresher.start now p.polling.period
        else p.refresher
      ({ polling := p.polling.endRound now round, refresher := refresher.returned round }, [])
    else (p, [])

/-- What a moment makes of polling. -/
def next (p : Poller) (moment : Moment) : Poller := (p.step moment).1

/-- How it stands after a run. -/
def after (p : Poller) (history : List Moment) : Poller := Run.after next p history

/-- The rounds whose scan begins in a run, in order. -/
def begun (p : Poller) (history : List Moment) : List Nat :=
  Run.along next (fun p moment => (p.step moment).2) p history

/-- A run is a moment and the run from there. -/
theorem after_cons (p : Poller) (moment : Moment) (rest : List Moment) :
    p.after (moment :: rest) = (p.step moment).1.after rest := rfl

/-- The rounds of a run are those of its first moment, and then those of the rest. -/
theorem begun_cons (p : Poller) (moment : Moment) (rest : List Moment) :
    p.begun (moment :: rest) = (p.step moment).2 ++ (p.step moment).1.begun rest := rfl

/-- Polling and its refresher agree, and polling that runs goes on. -/
structure Sound (p : Poller) : Prop where
  refresher : p.refresher.Sound
  timer : p.refresher.timer = p.polling.timer
  /-- A round is in progress as long as the call of its task. -/
  rounds : ∀ round ∈ p.polling.rounds, p.refresher.IsCalling round
  unique : p.polling.rounds.Nodup
  goesOn : p.polling.running = true → p.polling.timer.isPending = true ∨ p.polling.rounds ≠ []
  idle : p.polling.running = false → p.polling.timer.isPending = false
  enabled : p.polling.running = true → p.polling.isEnabled = true
  /-- Without a period there never is a task. -/
  unarmed : p.polling.isEnabled = false → p.refresher.tasks = []

/-- New polling is sound. -/
theorem sound_create (settings : Settings) : (create settings).Sound where
  refresher := Refresher.sound_new
  timer := rfl
  rounds round hround := by cases hround
  unique := List.nodup_nil
  goesOn hrunning := by cases hrunning
  idle _ := rfl
  enabled hrunning := by cases hrunning
  unarmed _ := rfl

variable {p : Poller} {moment : Moment} {now : Instant}

/-- To start polling arms its timer, unless it runs or there is no period. -/
theorem Sound.started (h : p.Sound) (now : Instant) : (p.step (.started now)).1.Sound := by
  simp only [step]
  split
  · next hstarts =>
    have henabled : p.polling.isEnabled = true := by simp_all
    have hstart : p.polling.start now = { p.polling with
        running := true, timer := p.polling.timer.start now p.polling.period } := if_pos hstarts
    rw [hstart]
    exact {
      refresher := h.refresher.arm _
      timer := rfl
      rounds := fun round hround => (h.rounds round hround).keep fun _ htask hphase _ =>
        h.refresher.mem_arm htask hphase _
      unique := h.unique
      goesOn := fun _ => .inl rfl
      idle := by rintro ⟨⟩
      enabled := fun _ => henabled
      unarmed := fun hdisabled => by cases henabled.symm.trans hdisabled }
  · exact h

/-- To stop polling stops its timer; the rounds that are in progress go on. -/
theorem Sound.stopped (h : p.Sound) : (p.step .stopped).1.Sound where
  refresher := h.refresher.stop.1
  timer := (h.refresher.refines_timer 0).2.1
  rounds round hround := (h.rounds round hround).keep fun _ htask hphase _ =>
    h.refresher.mem_stop htask hphase
  unique := h.unique
  goesOn := by rintro ⟨⟩
  idle _ := rfl
  enabled := by rintro ⟨⟩
  unarmed hdisabled := by
    have hnone := h.unarmed hdisabled
    simp only [step, Refresher.stop, Refresher.abort, Refresher.changed]
    split <;> simp [hnone]

/-- A task of the timer that calls begins a round, which polling that runs waits for. -/
theorem Sound.fire_eq (h : p.Sound) {now task : Nat}
    (hcalls : (p.refresher.poll now task).2 = true) :
    p.polling.running = true ∧ p.polling.fire now task =
      ({ p.polling with timer := p.polling.timer.stop, rounds := task :: p.polling.rounds },
        true) := by
  have hdue : p.polling.timer.isDue now = true := by
    rw [← h.timer]
    exact (h.refresher.refines_timer now).2.2.2.mpr ⟨task, hcalls⟩
  have hrunning : p.polling.running = true := by
    by_contra hstopped
    have hidle := h.idle (Bool.not_eq_true _ ▸ hstopped)
    cases hpending : p.polling.timer.pending <;> simp_all [Timer.isDue, Timer.isPending]
  refine ⟨hrunning, ?_⟩
  simp only [Polling.fire, Timer.fire?, hdue, if_true, Polling.beginRound, hrunning]

/-- A task of the timer that is run ends, sleeps on or begins a round. -/
theorem Sound.polled (h : p.Sound) (now task : Nat) :
    (p.step (.polled now task)).1.Sound ∧
      ((p.step (.polled now task)).2 ≠ [] → p.polling.running = true) := by
  have hsound := h.refresher.poll now task
  have htimer := (h.refresher.refines_timer now).2.2.1 task
  have hrounds : ∀ round ∈ p.polling.rounds, (p.refresher.poll now task).1.IsCalling round :=
    fun round hround => (h.rounds round hround).keep fun _ hmem hphase _ =>
      h.refresher.mem_poll hmem hphase now task
  simp only [step]
  cases hcalls : (p.refresher.poll now task).2 with
  | false =>
    rw [← Prod.eta (p.refresher.poll now task), hcalls]
    refine ⟨{ h with
      refresher := hsound
      timer := ?_
      rounds := hrounds
      unarmed := fun hdisabled => ?_ }, fun hbegins => absurd rfl hbegins⟩
    · rw [htimer, hcalls]
      exact h.timer
    · have hnone := h.unarmed hdisabled
      simp [Refresher.poll, Refresher.task?, hnone]
  | true =>
    obtain ⟨hrunning, hfire⟩ := h.fire_eq hcalls
    obtain ⟨hbefore, hcalling⟩ := h.refresher.isCalling_of_poll hcalls
    rw [← Prod.eta (p.refresher.poll now task), hcalls, hfire]
    refine ⟨{
      refresher := hsound
      timer := ?_
      rounds := List.forall_mem_cons.mpr ⟨hcalling, hrounds⟩
      unique := List.nodup_cons.mpr ⟨fun hround => hbefore (h.rounds task hround), h.unique⟩
      goesOn := fun _ => .inr (List.cons_ne_nil _ _)
      idle := fun _ => rfl
      enabled := h.enabled
      unarmed := fun hdisabled => by cases (h.enabled hrunning).symm.trans hdisabled },
      fun _ => hrunning⟩
    rw [htimer, hcalls, h.timer]
    rfl

/-- The calls of the other rounds go on when the call of a round returns. -/
theorem Sound.others_calling (h : p.Sound) (round : Nat) {refresher : Refresher}
    (hcalls : ∀ other ∈ p.polling.rounds, refresher.IsCalling other) :
    ∀ other ∈ p.polling.rounds.erase round, (refresher.returned round).IsCalling other := by
  intro other hother
  obtain ⟨hne, hmem⟩ := h.unique.mem_erase_iff.mp hother
  exact (hcalls other hmem).keep fun _ htask _ hsame =>
    Refresher.mem_returned htask (hsame.trans_ne hne)

/-- A round that ends plans the next one, if polling runs. -/
theorem Sound.scanned (h : p.Sound) (now : Instant) (round : Nat)
    (result : Except Error Report) : (p.step (.scanned now round result)).1.Sound := by
  simp only [step]
  split
  · next hround =>
    cases hrunning : p.polling.running with
    | true =>
      have henabled := h.enabled hrunning
      have hend : p.polling.endRound now round = { p.polling with
          rounds := p.polling.rounds.erase round
          timer := p.polling.timer.start now p.polling.period } := by
        simp only [Polling.endRound, Polling.isEnabled] at henabled ⊢
        simp only [hrunning, henabled, Bool.and_self, if_true]
      have hstart := h.refresher.arm (.after now p.polling.period .one)
      have hcalls : ∀ other ∈ p.polling.rounds,
          (p.refresher.start now p.polling.period).IsCalling other := fun other hother =>
        (h.rounds other hother).keep fun _ htask hphase _ => h.refresher.mem_arm htask hphase _
      obtain ⟨hsound, hslot, _⟩ := hstart.returned round
      rw [hend, henabled, Bool.and_self, if_pos rfl]
      exact {
        refresher := hsound
        timer := congrArg (fun slot => Timer.mk (slot.map Refresher.Slot.arming)) hslot
        rounds := h.others_calling round hcalls
        unique := h.unique.erase round
        goesOn := fun _ => .inl rfl
        idle := fun hstopped => by cases hrunning.symm.trans hstopped
        enabled := fun _ => henabled
        unarmed := fun hdisabled => by cases henabled.symm.trans hdisabled }
    | false =>
      have hend : p.polling.endRound now round =
          { p.polling with rounds := p.polling.rounds.erase round } := by
        simp only [Polling.endRound, hrunning, Bool.false_and, Bool.false_eq_true, if_false]
      obtain ⟨hsound, hslot, _⟩ := h.refresher.returned round
      rw [hend, Bool.false_and, if_neg Bool.false_ne_true]
      refine {
        refresher := hsound
        timer := ?_
        rounds := h.others_calling round h.rounds
        unique := h.unique.erase round
        goesOn := fun hstarted => by cases hrunning.symm.trans hstarted
        idle := fun _ => h.idle hrunning
        enabled := fun hstarted => by cases hrunning.symm.trans hstarted
        unarmed := fun hdisabled => ?_ }
      · rw [← h.timer]
        exact congrArg (fun slot => Timer.mk (slot.map Refresher.Slot.arming)) hslot
      · have hnone := h.unarmed hdisabled
        simp [Refresher.returned, Refresher.task?, hnone]
  · exact h

/-- Whatever happens, polling stays sound, and a scan begins only while it runs. -/
theorem Sound.step (h : p.Sound) (moment : Moment) :
    (p.step moment).1.Sound ∧ ((p.step moment).2 ≠ [] → p.polling.running = true) := by
  cases moment with
  | started now =>
    refine ⟨h.started now, fun hbegins => absurd ?_ hbegins⟩
    simp only [Poller.step]
    split <;> rfl
  | stopped => exact ⟨h.stopped, fun hbegins => absurd rfl hbegins⟩
  | polled now task => exact h.polled now task
  | scanned now round result =>
    refine ⟨h.scanned now round result, fun hbegins => absurd ?_ hbegins⟩
    simp only [Poller.step]
    split <;> rfl

/-- After every run polling is sound. -/
theorem Sound.after (h : p.Sound) (history : List Moment) : (p.after history).Sound :=
  Run.keeps (p := Poller.Sound) (fun _ moment h => (h.step moment).1) h history

/-! ### When polling runs -/

/-- Only a start and a stop decide whether polling runs, and nothing changes its period. -/
theorem Sound.step_running (h : p.Sound) (moment : Moment) :
    (p.step moment).1.polling.isEnabled = p.polling.isEnabled ∧
    (p.step moment).1.polling.running =
      (p.polling.isEnabled && moment.wanted p.polling.running) := by
  have hrunning : p.polling.running = (p.polling.isEnabled && p.polling.running) := by
    cases hstarted : p.polling.running with
    | true => rw [h.enabled hstarted, Bool.and_self]
    | false => rw [Bool.and_false]
  cases moment with
  | started now =>
    simp only [Poller.step, Moment.wanted, Bool.and_true]
    split
    · next hstarts =>
      have henabled : p.polling.isEnabled = true := by simp_all
      exact ⟨Polling.isEnabled_start _ _, by rw [Polling.running_start henabled, henabled]⟩
    · next hstays =>
      refine ⟨rfl, ?_⟩
      cases henabled : p.polling.isEnabled <;> simp_all
  | stopped => exact ⟨rfl, by simp [Poller.step, Polling.stop, Moment.wanted]⟩
  | polled now task =>
    simp only [Poller.step, Moment.wanted]
    rw [← hrunning]
    have hfire := p.polling.fire_keeps now task
    split
    · exact ⟨rfl, rfl⟩
    · split <;> simp_all
  | scanned now round result =>
    simp only [Poller.step, Moment.wanted]
    rw [← hrunning]
    have hend := p.polling.endRound_keeps now round
    split
    · exact ⟨hend.2, hend.1⟩
    · exact ⟨rfl, rfl⟩

/-- Polling with a period runs exactly while it is wanted, in every run. -/
theorem Sound.running_after (h : p.Sound) {earlier : Bool} (history : List Moment)
    (hrunning : p.polling.running = (p.polling.isEnabled && earlier)) :
    (p.after history).polling.isEnabled = p.polling.isEnabled ∧
    (p.after history).polling.running =
      (p.polling.isEnabled && history.foldl Moment.wanted earlier) := by
  induction history generalizing p earlier with
  | nil => exact ⟨rfl, hrunning⟩
  | cons moment history ih =>
    obtain ⟨henabled, hnext⟩ := h.step_running moment
    have hwanted : (p.polling.isEnabled && moment.wanted p.polling.running) =
        (p.polling.isEnabled && moment.wanted earlier) := by
      cases moment <;> simp [Moment.wanted, hrunning]
    rw [after_cons, List.foldl_cons, ← henabled]
    refine ih (h.step moment).1 ?_
    rw [hnext, hwanted, henabled]

/-- No scan begins as long as polling that does not run is not started. -/
theorem Sound.begun_eq_nil (h : p.Sound) {since : List Moment}
    (hstopped : p.polling.running = false) (hstart : ∀ moment ∈ since, moment.isStart = false) :
    p.begun since = [] := by
  induction since generalizing p with
  | nil => rfl
  | cons moment since ih =>
    obtain ⟨hhere, hrest⟩ := List.forall_mem_cons.mp hstart
    obtain ⟨hnext, hbegins⟩ := h.step moment
    have hnone : (p.step moment).2 = [] := by
      by_contra hbegun
      cases hstopped.symm.trans (hbegins hbegun)
    have hstays : (p.step moment).1.polling.running = false := by
      rw [(h.step_running moment).2, hstopped]
      cases moment <;> simp_all [Moment.wanted, Moment.isStart]
    rw [begun_cons, hnone, ih hnext hstays hrest, List.nil_append]

/-- **Polling goes on until it is stopped.** Take any run of new polling: starts, stops, tasks of
the timer that are run at any time, and scans that end at any time, well or not. Polling runs
exactly if it has a period, was started and was not stopped since. While it runs, a timer is
pending, or a round is in progress, and nothing but its own end can end it. While it does not run,
no timer is pending. As many tasks wait as the timer has pending, so there is never more than one.
After a stop, or if there never was a start, no scan begins until the next start. Without a period
no timer is ever armed. -/
theorem goes_on_until_stopped (settings : Settings) (history : List Moment) :
    let p := (create settings).after history
    (p.polling.running = true ↔
      0 < settings.pollingPeriod ∧ history.foldl Moment.wanted false = true) ∧
    (p.polling.running = true → p.polling.timer.isPending = true ∨
      ∃ round ∈ p.polling.rounds, p.refresher.IsCalling round) ∧
    (p.polling.running = false → p.polling.timer.isPending = false) ∧
    (p.refresher.tasks.filter Refresher.Task.isLive).length =
      (if p.polling.timer.isPending then 1 else 0) ∧
    (history.foldl Moment.wanted false = false →
      ∀ since, (∀ moment ∈ since, moment.isStart = false) → p.begun since = []) ∧
    (settings.pollingPeriod = 0 → p.refresher.tasks = []) := by
  intro p
  have h : p.Sound := (sound_create settings).after history
  obtain ⟨hperiod, hruns⟩ : p.polling.isEnabled = (Polling.create settings).isEnabled ∧
      p.polling.running =
        ((Polling.create settings).isEnabled && history.foldl Moment.wanted false) :=
    (sound_create settings).running_after history (Bool.and_false _).symm
  refine ⟨?_, fun hrunning => ?_, h.idle, ?_, fun hwanted since hstart => ?_, fun hzero => ?_⟩
  · rw [hruns, Bool.and_eq_true, Polling.isEnabled_create]
  · rcases h.goesOn hrunning with hpending | hrounds
    · exact .inl hpending
    · obtain ⟨round, hround⟩ := List.exists_mem_of_ne_nil _ hrounds
      exact .inr ⟨round, hround, h.rounds round hround⟩
  · rw [h.refresher.length_live, h.timer]
  · refine h.begun_eq_nil ?_ hstart
    rw [hruns, hwanted, Bool.and_false]
  · refine h.unarmed ?_
    rw [hperiod, ← Bool.not_eq_true, Polling.isEnabled_create, hzero]
    exact Nat.lt_irrefl 0

/-- Settings for the example. -/
def sampleSettings : Settings := { homeDomain := "a", publicUri := "sip:b@a", pollingPeriod := 5 }

/-- An example: during the scan of the first round, polling is stopped and started again; then the
scan fails. Both have armed the timer. -/
def sampleOverlap : List Moment :=
  [.started 0, .polled 5 1, .stopped, .started 7000000,
    .scanned 9000000 1 (.error (.internal "unlistable")), .polled 12 3]

/-- In the example polling runs, one task waits, and once polling is stopped no task begins a
scan. -/
theorem overlap_arms_one_timer :
    let p := (create sampleSettings).after sampleOverlap
    let stopped := (create sampleSettings).after (sampleOverlap ++ [.stopped])
    p.polling.running = true ∧ p.polling.rounds = [] ∧
      (p.refresher.tasks.filter Refresher.Task.isLive).length = 1 ∧
      stopped.begun [.polled 14 4, .polled 20 3] = [] := by
  intro p stopped
  have hpolling := goes_on_until_stopped sampleSettings sampleOverlap
  have hrunning : p.polling.running = true := hpolling.1.mpr ⟨by decide, rfl⟩
  have hrounds : p.polling.rounds = [] := by decide +kernel
  have hpending : p.polling.timer.isPending = true := by
    rcases hpolling.2.1 hrunning with hpending | ⟨round, hround, _⟩
    · exact hpending
    · exact absurd hround (List.eq_nil_iff_forall_not_mem.mp hrounds round)
  refine ⟨hrunning, hrounds, ?_, ?_⟩
  · rw [hpolling.2.2.2.1, if_pos hpending]
  · have hstopped := goes_on_until_stopped sampleSettings (sampleOverlap ++ [.stopped])
    exact hstopped.2.2.2.2.1 rfl _ (by decide)

end Poller

end Capability

end ImsClient
