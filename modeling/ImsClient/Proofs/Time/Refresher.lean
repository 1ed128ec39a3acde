import ImsClient.Proofs.Run
import ImsClient.Time.Refresher
import Mathlib.Data.List.Nodup

/-!
# One call for each start

The generations, the slot and the sleeping tasks of a refresher are kept together: at
most one task sleeps that is not to end, it is the one in the slot, and it has the
current generation. So of the tasks that are run, only the one in the slot calls the
owner. Along a clock of milliseconds that stands still as long as a task that is due has
not run, each start that does not fail is followed by one call, at its deadline, or by none
if there was another such start or a stop before. A start that fails is as if there was none.
-/

namespace ImsClient

/-- A start does not fail exactly if there is a duration as long as its delay and a point of time as
late as its deadline. -/
theorem Arming.after?_eq_some_iff {latest base : Instant} {period : Duration}
    {factor : Time.Factor} {arming : Arming} :
    after? latest base period factor = some arming ↔
      (period.scale factor).wholeSeconds ≤ Duration.maxSeconds ∧
        (after base period factor).deadline ≤ latest ∧ arming = after base period factor := by
  unfold after? Duration.scale?
  by_cases hlong : (period.scale factor).wholeSeconds ≤ Duration.maxSeconds
  · rw [if_pos hlong, Option.bind_some]
    by_cases hlate : base + (period.scale factor).nanoseconds ≤ latest
    · rw [if_pos hlate, Option.some_inj]
      exact ⟨fun heq => ⟨hlong, hlate, heq.symm⟩, fun h => h.2.2.symm⟩
    · rw [if_neg hlate]
      exact ⟨fun heq => (Option.some_ne_none _ heq.symm).elim, fun h => (hlate h.2.1).elim⟩
  · rw [if_neg hlong, Option.bind_none]
    exact ⟨fun heq => (Option.some_ne_none _ heq.symm).elim, fun h => (hlong h.1).elim⟩

namespace Refresher

/-- Whether a task sleeps and is not to end. -/
def Task.isLive (task : Task) : Bool := task.phase = .asleep && !task.aborted

/-- The task of a slot, as it sleeps. -/
def Slot.sleeper (slot : Slot) : Task where
  generation := slot.task
  deadline := slot.arming.deadline

/-- A sleeping task of a slot is live. -/
@[simp] theorem Slot.isLive_sleeper (slot : Slot) : slot.sleeper.isLive = true := rfl

/-- The parts of a refresher agree. -/
structure Sound (r : Refresher) : Prop where
  known : ∀ task ∈ r.tasks, task.generation ≤ r.generation
  unique : (r.tasks.map Task.generation).Nodup
  /-- At most one task is live, and it is the one in the slot. -/
  live : r.tasks.filter Task.isLive = (r.slot.map Slot.sleeper).toList
  current : ∀ slot, r.slot = some slot → slot.task = r.generation
  /-- A call is never aborted. -/
  calling : ∀ task ∈ r.tasks, task.phase = .calling → task.aborted = false

/-- A refresher that was never started is sound. -/
theorem sound_new : ({} : Refresher).Sound where
  known task htask := by cases htask
  unique := List.nodup_nil
  live := rfl
  current slot hslot := by cases hslot
  calling task htask := by cases htask

variable {r : Refresher} {slot : Slot} {task other : Task} {generation now : Nat}

/-! ### Tasks -/

/-- Two tasks of one generation are the same. -/
theorem Sound.eq_of_generation (h : r.Sound) (htask : task ∈ r.tasks) (hother : other ∈ r.tasks)
    (hsame : task.generation = other.generation) : task = other :=
  List.inj_on_of_nodup_map h.unique htask hother hsame

/-- The task of the slot sleeps. -/
theorem Sound.sleeper_mem (h : r.Sound) (hslot : r.slot = some slot) : slot.sleeper ∈ r.tasks := by
  have hlive : slot.sleeper ∈ r.tasks.filter Task.isLive := by simp [h.live, hslot]
  exact List.mem_of_mem_filter hlive

/-- A live task is that of the slot. -/
theorem Sound.slot_of_live (h : r.Sound) (htask : task ∈ r.tasks) (hlive : task.isLive = true) :
    ∃ slot, r.slot = some slot ∧ task = slot.sleeper := by
  have hmem : task ∈ (r.slot.map Slot.sleeper).toList := by
    rw [← h.live]
    exact List.mem_filter.mpr ⟨htask, hlive⟩
  obtain ⟨slot, hslot, rfl⟩ := Option.map_eq_some_iff.mp (Option.mem_toList.mp hmem)
  exact ⟨slot, hslot, rfl⟩

/-- A task of the generation of the slot is its task. -/
theorem Sound.eq_sleeper (h : r.Sound) (hslot : r.slot = some slot) (htask : task ∈ r.tasks)
    (hsame : task.generation = slot.task) : task = slot.sleeper :=
  h.eq_of_generation htask (h.sleeper_mem hslot) hsame

/-- A task that is found is one of the tasks. -/
theorem mem_of_task? (hfind : r.task? generation = some task) :
    task ∈ r.tasks ∧ task.generation = generation :=
  ⟨List.mem_of_find?_eq_some hfind, by simpa using List.find?_some hfind⟩

/-- A task is found under its generation. -/
theorem Sound.task?_eq (h : r.Sound) (htask : task ∈ r.tasks) :
    r.task? task.generation = some task := by
  cases hfind : r.task? task.generation with
  | none =>
    have hmissing := List.find?_eq_none.mp hfind task htask
    simp at hmissing
  | some found =>
    obtain ⟨hfound, hsame⟩ := mem_of_task? hfind
    rw [h.eq_of_generation hfound htask hsame]

/-- A change to a task that keeps its generation keeps those of all. -/
theorem map_generation_changed {change : Task → Task}
    (hchange : ∀ task, (change task).generation = task.generation) :
    (r.changed generation change).map Task.generation = r.tasks.map Task.generation := by
  unfold changed
  rw [List.map_map]
  refine List.map_congr_left fun task _ => ?_
  dsimp only [Function.comp]
  split
  · exact hchange task
  · rfl

/-- Every task is as it was or has changed. -/
theorem mem_changed {change : Task → Task} :
    task ∈ r.changed generation change ↔
      ∃ before ∈ r.tasks, if before.generation = generation then task = change before
        else task = before := by
  unfold changed
  rw [List.mem_map]
  refine exists_congr fun before => and_congr_right fun _ => ?_
  split <;> exact eq_comm

/-- A task of another generation stays as it is. -/
theorem mem_changed_of_ne {change : Task → Task} (htask : task ∈ r.tasks)
    (hne : task.generation ≠ generation) : task ∈ r.changed generation change :=
  mem_changed.mpr ⟨task, htask, by rw [if_neg hne]⟩

/-! ### What a refresher does -/

/-- The slot is emptied soundly if its task does not sleep on. -/
theorem Sound.empty (h : r.Sound) (hslot : r.slot = some slot) {change : Task → Task}
    (hchange : ∀ task, (change task).generation = task.generation)
    (hawake : (change slot.sleeper).isLive = false)
    (hcalling : (change slot.sleeper).phase = .calling → (change slot.sleeper).aborted = false) :
    { r with slot := none, tasks := r.changed slot.task change }.Sound where
  known task htask := by
    obtain ⟨before, hbefore, heq⟩ := mem_changed.mp htask
    split at heq
    · rw [heq, hchange]
      exact h.known before hbefore
    · rw [heq]
      exact h.known before hbefore
  unique := by
    rw [map_generation_changed hchange]
    exact h.unique
  live := by
    refine List.filter_eq_nil_iff.mpr fun task htask hlive => ?_
    obtain ⟨before, hbefore, heq⟩ := mem_changed.mp htask
    split at heq
    · next hsame =>
      rw [heq, h.eq_sleeper hslot hbefore hsame, hawake] at hlive
      cases hlive
    · next hother =>
      subst heq
      obtain ⟨found, hfound, rfl⟩ := h.slot_of_live hbefore hlive
      cases hslot.symm.trans hfound
      exact hother rfl
  current other hother := by cases hother
  calling task htask hphase := by
    obtain ⟨before, hbefore, heq⟩ := mem_changed.mp htask
    split at heq
    · next hsame =>
      rw [h.eq_sleeper hslot hbefore hsame] at heq
      subst heq
      exact hcalling hphase
    · subst heq
      exact h.calling task hbefore hphase

/-- To abort leaves a refresher sound, with nothing in the slot. -/
theorem Sound.abort (h : r.Sound) : r.abort.Sound ∧ r.abort.slot = none ∧
    r.abort.generation = r.generation := by
  unfold Refresher.abort
  cases hslot : r.slot with
  | none => exact ⟨h, hslot, rfl⟩
  | some slot => exact ⟨h.empty hslot (fun _ => rfl) rfl (by simp [Slot.sleeper]), rfl, rfl⟩

/-- To count one generation more leaves a refresher sound that waits for nothing. -/
theorem Sound.next (h : r.Sound) (hslot : r.slot = none) :
    { r with generation := r.generation + 1 }.Sound where
  known task htask := Nat.le_succ_of_le (h.known task htask)
  unique := h.unique
  live := h.live
  current slot hsome := by cases hslot.symm.trans hsome
  calling := h.calling

/-- To stop is to abort and to count one generation more. -/
theorem stop_eq (r : Refresher) : r.stop = { r.abort with generation := r.generation + 1 } := by
  unfold Refresher.stop Refresher.abort
  cases hslot : r.slot <;> simp [hslot, changed]

/-- To stop leaves a refresher sound, and it waits for nothing. -/
theorem Sound.stop (h : r.Sound) : r.stop.Sound ∧ r.stop.slot = none := by
  obtain ⟨hsound, hslot, hgeneration⟩ := h.abort
  rw [stop_eq, ← hgeneration]
  exact ⟨hsound.next hslot, hslot⟩

/-- A refresher that begins a task is sound, and it waits for what the task is for. -/
theorem Sound.arm (h : r.Sound) (arming : Arming) : (r.arm arming).Sound := by
  obtain ⟨hsound, hslot, hgeneration⟩ := h.abort
  have hold : ∀ task ∈ r.abort.tasks, task.generation ≤ r.generation := by
    rw [← hgeneration]
    exact hsound.known
  refine ⟨fun task htask => ?_, ?_, ?_, ?_, fun task htask hphase => ?_⟩
  · rcases List.mem_append.mp htask with hbefore | hnew
    · exact Nat.le_succ_of_le (hold task hbefore)
    · rw [List.mem_singleton.mp hnew]
      exact Nat.le_refl _
  · simp only [Refresher.arm, List.map_append, List.map_singleton]
    refine List.nodup_append.mpr ⟨hsound.unique, by simp, ?_⟩
    intro old hold' new hnew
    obtain ⟨task, htask, rfl⟩ := List.mem_map.mp hold'
    rw [List.mem_singleton.mp hnew]
    exact Nat.ne_of_lt (Nat.lt_succ_of_le (hold task htask))
  · have hnone : r.abort.tasks.filter Task.isLive = [] := by rw [hsound.live, hslot]; rfl
    simp only [Refresher.arm, List.filter_append, hnone, List.nil_append]
    rfl
  · rintro slot ⟨⟩
    rfl
  · rcases List.mem_append.mp htask with hbefore | hnew
    · exact hsound.calling task hbefore hphase
    · rw [List.mem_singleton.mp hnew]

/-- A task that calls the owner is not the one in the slot. -/
theorem Sound.ne_of_calling (h : r.Sound) (htask : task ∈ r.tasks) (hphase : task.phase = .calling)
    (hslot : r.slot = some slot) : task.generation ≠ slot.task := by
  intro hsame
  rw [h.eq_sleeper hslot htask hsame] at hphase
  cases hphase

/-- A task that calls the owner is not aborted. -/
theorem Sound.mem_abort (h : r.Sound) (htask : task ∈ r.tasks) (hphase : task.phase = .calling) :
    task ∈ r.abort.tasks := by
  unfold Refresher.abort
  cases hslot : r.slot with
  | none => exact htask
  | some slot => exact mem_changed_of_ne htask (h.ne_of_calling htask hphase hslot)

/-- The task of the slot leaves it soundly to call the owner. -/
theorem Sound.detach (h : r.Sound) (hslot : r.slot = some slot) : (r.detach slot.task).Sound :=
  h.empty hslot (fun _ => rfl) rfl (fun _ => rfl)

/-- A task that is not live is taken out soundly. -/
theorem Sound.without (h : r.Sound) (htask : task ∈ r.tasks) (hlive : task.isLive = false) :
    (r.without task.generation).Sound where
  known other hother := h.known other (List.mem_of_mem_filter hother)
  unique := h.unique.sublist (List.filter_sublist.map _)
  live := by
    simp only [Refresher.without, List.filter_filter]
    rw [← h.live]
    refine List.filter_congr fun other hother => ?_
    by_cases hsame : other.generation = task.generation
    · rw [h.eq_of_generation hother htask hsame, hlive]
      rfl
    · simp [hsame]
  current := h.current
  calling other hother := h.calling other (List.mem_of_mem_filter hother)

/-- **What a task does when it is run.** The task of the slot calls the owner once its deadline is
reached. Any other one ends if it was aborted, or goes on with what it does. -/
theorem Sound.poll_cases (h : r.Sound) (now generation : Nat) :
    (∃ slot, r.slot = some slot ∧ slot.task = generation ∧ slot.arming.deadline.tick ≤ now ∧
      r.poll now generation = (r.detach generation, true)) ∨
    (∃ task ∈ r.tasks, task.generation = generation ∧ task.aborted = true ∧
      r.poll now generation = (r.without generation, false)) ∨
    (r.poll now generation = (r, false) ∧ ∀ slot, r.slot = some slot → slot.task = generation →
      (now : Int) < slot.arming.deadline.tick) := by
  unfold poll
  cases hfind : r.task? generation with
  | none =>
    refine .inr (.inr ⟨rfl, fun slot hslot hsame => ?_⟩)
    have hsleeper := h.task?_eq (h.sleeper_mem hslot)
    rw [show slot.sleeper.generation = generation from hsame, hfind] at hsleeper
    cases hsleeper
  | some task =>
    obtain ⟨htask, hgeneration⟩ := mem_of_task? hfind
    dsimp only
    by_cases haborted : task.aborted = true
    · exact .inr (.inl ⟨task, htask, hgeneration, haborted, if_pos haborted⟩)
    · rw [if_neg haborted]
      cases hphase : task.phase with
      | calling =>
        refine .inr (.inr ⟨rfl, fun slot hslot hsame => ?_⟩)
        rw [h.eq_sleeper hslot htask (hgeneration.trans hsame.symm)] at hphase
        cases hphase
      | asleep =>
        have hlive : task.isLive = true := by simp [Task.isLive, hphase, haborted]
        obtain ⟨slot, hslot, rfl⟩ := h.slot_of_live htask hlive
        obtain rfl : slot.task = generation := hgeneration
        dsimp only
        by_cases hdue : slot.sleeper.deadline.tick ≤ (now : Int)
        · rw [if_pos hdue, if_pos (h.current slot hslot).symm]
          exact .inl ⟨slot, hslot, rfl, hdue, rfl⟩
        · rw [if_neg hdue]
          refine .inr (.inr ⟨rfl, fun other hother _ => ?_⟩)
          cases hslot.symm.trans hother
          exact Int.not_le.mp hdue

/-- To run a task leaves a refresher sound. -/
theorem Sound.poll (h : r.Sound) (now generation : Nat) : (r.poll now generation).1.Sound := by
  rcases h.poll_cases now generation with
    ⟨slot, hslot, rfl, _, heq⟩ | ⟨task, htask, rfl, haborted, heq⟩ | ⟨heq, _⟩
  · rw [heq]
    exact h.detach hslot
  · rw [heq]
    exact h.without htask (by simp [Task.isLive, haborted])
  · rw [heq]
    exact h

/-- A task that calls the owner goes on when the refresher begins another one. -/
theorem Sound.mem_arm (h : r.Sound) (htask : task ∈ r.tasks) (hphase : task.phase = .calling)
    (arming : Arming) : task ∈ (r.arm arming).tasks :=
  List.mem_append_left _ (h.mem_abort htask hphase)

/-- It goes on when the refresher is stopped. -/
theorem Sound.mem_stop (h : r.Sound) (htask : task ∈ r.tasks) (hphase : task.phase = .calling) :
    task ∈ r.stop.tasks := by
  rw [stop_eq]
  exact h.mem_abort htask hphase

/-- It goes on when a task is run, be it this one. -/
theorem Sound.mem_poll (h : r.Sound) (htask : task ∈ r.tasks) (hphase : task.phase = .calling)
    (now generation : Nat) : task ∈ (r.poll now generation).1.tasks := by
  rcases h.poll_cases now generation with
    ⟨slot, hslot, rfl, _, heq⟩ | ⟨found, hfound, rfl, haborted, heq⟩ | ⟨heq, _⟩
  · rw [heq]
    exact mem_changed_of_ne htask (h.ne_of_calling htask hphase hslot)
  · rw [heq]
    refine List.mem_filter.mpr ⟨htask, ?_⟩
    have hne : task.generation ≠ found.generation := by
      intro hsame
      rw [← h.eq_of_generation htask hfound hsame, h.calling task htask hphase] at haborted
      cases haborted
    simpa using hne
  · rw [heq]
    exact htask

/-- And it goes on when the call of another one returns. -/
theorem mem_returned (htask : task ∈ r.tasks) (hne : task.generation ≠ generation) :
    task ∈ (r.returned generation).tasks := by
  unfold Refresher.returned
  split
  · exact List.mem_filter.mpr ⟨htask, by simpa using hne⟩
  · exact htask

/-- A call that is over leaves a refresher sound, with the slot as it is. -/
theorem Sound.returned (h : r.Sound) (generation : Nat) :
    (r.returned generation).Sound ∧ (r.returned generation).slot = r.slot ∧
      (r.returned generation).generation = r.generation := by
  unfold Refresher.returned
  split
  · next found hfind =>
    obtain ⟨htask, rfl⟩ := mem_of_task? hfind
    exact ⟨h.without htask rfl, rfl, rfl⟩
  · exact ⟨h, rfl, rfl⟩

/-- **A refresher is a timer.** To stop it stops its timer, and to start it starts its timer, unless
the start fails. A task that is run calls the owner and takes out what is pending, or leaves the
timer alone; and there is one to call the owner exactly if the timer is due. -/
theorem Sound.refines_timer (h : r.Sound) (now : Nat) :
    (∀ latest base period factor, ∀ started ∈ r.startScaled? latest base period factor,
      started.timer = r.timer.startScaled base period factor) ∧
    r.stop.timer = r.timer.stop ∧
    (∀ generation, (r.poll now generation).1.timer =
      if (r.poll now generation).2 then r.timer.stop else r.timer) ∧
    (r.timer.isDue now = true ↔ ∃ generation, (r.poll now generation).2 = true) := by
  refine ⟨fun latest base period factor started hstarted => ?_, ?_, fun generation => ?_, ?_⟩
  · obtain ⟨arming, harming, rfl⟩ := Option.map_eq_some_iff.mp hstarted
    rw [(Arming.after?_eq_some_iff.mp harming).2.2]
    rfl
  · rw [timer, h.stop.2]
    rfl
  · rcases h.poll_cases now generation with ⟨_, _, _, _, heq⟩ | ⟨_, _, _, _, heq⟩ | ⟨heq, _⟩ <;>
      rw [heq] <;> rfl
  · constructor
    · intro hdue
      cases hslot : r.slot with
      | none => simp [timer, hslot, Timer.isDue] at hdue
      | some slot =>
        refine ⟨slot.task, ?_⟩
        have hreached : slot.arming.deadline.tick ≤ (now : Int) := by
          simpa [timer, hslot, Timer.isDue] using hdue
        rcases h.poll_cases now slot.task with
          ⟨_, _, _, _, heq⟩ | ⟨task, htask, hsame, haborted, _⟩ | ⟨_, hearly⟩
        · rw [heq]
        · rw [h.eq_sleeper hslot htask hsame] at haborted
          cases haborted
        · exact absurd hreached (Int.not_le.mpr (hearly slot hslot rfl))
    · rintro ⟨generation, hcalls⟩
      rcases h.poll_cases now generation with
        ⟨slot, hslot, _, hreached, _⟩ | ⟨_, _, _, _, heq⟩ | ⟨heq, _⟩
      · simpa [timer, hslot, Timer.isDue] using hreached
      · rw [heq] at hcalls
        cases hcalls
      · rw [heq] at hcalls
        cases hcalls

/-! ### Runs -/

/-- What may happen next: the clock ticks, somebody starts or stops the refresher, be it in a call
of the owner or not, or one of its tasks is run or returns from its call. -/
inductive Moment where
  | ticked
  | started (base : Instant) (period : Duration) (factor : Time.Factor)
  | stopped
  | polled (task : Nat)
  | returned (task : Nat)

namespace Moment

/-- Whether the refresher is started by a start that does not fail. -/
def isStart (latest : Instant) : Moment → Bool
  | started base period factor => (Arming.after? latest base period factor).isSome
  | _ => false

/-- Whether the refresher is started by a start that does not fail, or stopped. -/
def isOrder (latest : Instant) : Moment → Bool
  | stopped => true
  | moment => moment.isStart latest

end Moment

/-- A call of the owner. -/
structure Call where
  /-- The milliseconds since the clock started. -/
  time : Nat
  task : Nat
deriving DecidableEq

/-- A refresher with the milliseconds since its clock started. -/
structure Clocked where
  refresher : Refresher := {}
  now : Nat := 0

namespace Clocked

/-- Whether a task is due that sleeps. -/
def isDue (c : Clocked) : Bool :=
  c.refresher.tasks.any fun task => task.isLive && task.deadline.tick ≤ (c.now : Int)

/-- What comes of a moment, with the call of the owner that begins, where the clock can tell the
time until `latest`. It does not tick before every task that is due has run. A start that fails
leaves everything as it is; if it was made in a call, it ends that call. -/
def step (latest : Instant) (c : Clocked) : Moment → Clocked × List Call
  | .ticked => ({ c with now := if c.isDue then c.now else c.now + 1 }, [])
  | .started base period factor =>
    ({ c with refresher :=
        (c.refresher.startScaled? latest base period factor).getD c.refresher }, [])
  | .stopped => ({ c with refresher := c.refresher.stop }, [])
  | .polled task =>
    let (refresher, calls) := c.refresher.poll c.now task
    ({ c with refresher }, if calls then [⟨c.now, task⟩] else [])
  | .returned task => ({ c with refresher := c.refresher.returned task }, [])

/-- What a moment makes of a refresher and its clock. -/
def next (latest : Instant) (c : Clocked) (moment : Moment) : Clocked := (c.step latest moment).1

/-- How it stands after a run. -/
def after (latest : Instant) (c : Clocked) (history : List Moment) : Clocked :=
  Run.after (next latest) c history

/-- The calls of the owner in a run, in order. -/
def calls (latest : Instant) (c : Clocked) (history : List Moment) : List Call :=
  Run.along (next latest) (fun c moment => (c.step latest moment).2) c history

/-- The timer that the refresher is for others. -/
def timer (c : Clocked) : Timer := c.refresher.timer

variable {latest : Instant} {c : Clocked} {moment : Moment} {since : List Moment} {begun : Nat}

@[simp] theorem after_nil (c : Clocked) : c.after latest [] = c := rfl

@[simp] theorem calls_nil (c : Clocked) : c.calls latest [] = [] := rfl

/-- A run is a moment and the run from there. -/
theorem after_cons (c : Clocked) (moment : Moment) (rest : List Moment) :
    c.after latest (moment :: rest) = (c.step latest moment).1.after latest rest := rfl

/-- The calls of a run are those of its first moment, and then those of the rest. -/
theorem calls_cons (c : Clocked) (moment : Moment) (rest : List Moment) :
    c.calls latest (moment :: rest) =
      (c.step latest moment).2 ++ (c.step latest moment).1.calls latest rest := rfl

/-- One more moment takes it one step further. -/
theorem after_concat (c : Clocked) (history : List Moment) (moment : Moment) :
    c.after latest (history ++ [moment]) = ((c.after latest history).step latest moment).1 :=
  Run.after_concat c history moment

/-- A start begins a task, or fails and leaves everything as it is. -/
theorem started_cases (latest : Instant) (c : Clocked) (base : Instant) (period : Duration)
    (factor : Time.Factor) :
    (∃ arming, Arming.after? latest base period factor = some arming ∧
      c.step latest (.started base period factor) =
        ({ c with refresher := c.refresher.arm arming }, [])) ∨
    (Arming.after? latest base period factor = none ∧
      c.step latest (.started base period factor) = (c, [])) := by
  cases harming : Arming.after? latest base period factor with
  | none =>
    refine .inr ⟨rfl, ?_⟩
    rw [step, startScaled?, harming, Option.map_none, Option.getD_none]
  | some arming =>
    refine .inl ⟨arming, rfl, ?_⟩
    rw [step, startScaled?, harming, Option.map_some, Option.getD_some]

/-- Whatever happens, a refresher stays sound. -/
theorem sound_step (h : c.refresher.Sound) (moment : Moment) :
    (c.step latest moment).1.refresher.Sound := by
  cases moment with
  | ticked => exact h
  | started base period factor =>
    rcases started_cases latest c base period factor with ⟨arming, _, heq⟩ | ⟨_, heq⟩
    · rw [heq]
      exact h.arm arming
    · rw [heq]
      exact h
  | stopped => exact h.stop.1
  | returned task => exact (h.returned task).1
  | polled generation => exact h.poll c.now generation

/-- After every run a refresher is sound. -/
theorem sound_after (h : c.refresher.Sound) (history : List Moment) :
    (c.after latest history).refresher.Sound :=
  Run.keeps (p := fun c : Clocked => c.refresher.Sound) (fun _ moment h => sound_step h moment) h
    history

/-- A refresher that waits for nothing calls nobody and goes on so, unless it is started. -/
theorem idle_step (h : c.refresher.Sound) (hslot : c.refresher.slot = none)
    (hstart : moment.isStart latest = false) :
    (c.step latest moment).1.refresher.slot = none ∧ (c.step latest moment).2 = [] := by
  cases moment with
  | started base period factor =>
    rcases started_cases latest c base period factor with ⟨arming, harming, _⟩ | ⟨_, heq⟩
    · simp [Moment.isStart, harming] at hstart
    · rw [heq]
      exact ⟨hslot, rfl⟩
  | ticked => exact ⟨hslot, rfl⟩
  | stopped => exact ⟨h.stop.2, rfl⟩
  | returned task => exact ⟨(h.returned task).2.1.trans hslot, rfl⟩
  | polled generation =>
    simp only [step]
    rcases h.poll_cases c.now generation with
      ⟨slot, hsome, _⟩ | ⟨task, _, _, _, heq⟩ | ⟨heq, _⟩
    · cases hslot.symm.trans hsome
    · rw [heq]
      exact ⟨hslot, rfl⟩
    · rw [heq]
      exact ⟨hslot, rfl⟩

/-- In a run in which it is not started, a refresher that waits for nothing calls nobody. -/
theorem idle_run (h : c.refresher.Sound) (hslot : c.refresher.slot = none)
    (hstart : ∀ moment ∈ since, moment.isStart latest = false) :
    c.calls latest since = [] ∧ (c.after latest since).refresher.slot = none := by
  induction since generalizing c with
  | nil => exact ⟨rfl, hslot⟩
  | cons moment since ih =>
    obtain ⟨hhere, hrest⟩ := List.forall_mem_cons.mp hstart
    obtain ⟨hslot', hcalls⟩ := idle_step h hslot hhere
    obtain ⟨hcalls', hend⟩ := ih (sound_step h moment) hslot' hrest
    exact ⟨by rw [calls_cons, hcalls, hcalls', List.nil_append], hend⟩

/-! ### A start -/

/-- A task began once, and the refresher does not wait for it any more. -/
structure Spent (c : Clocked) (generation : Nat) : Prop where
  known : generation ≤ c.refresher.generation
  gone : ∀ slot, c.refresher.slot = some slot → slot.task ≠ generation

/-- A task that the refresher does not wait for never calls again. -/
theorem Spent.step (hspent : c.Spent generation) (h : c.refresher.Sound) (moment : Moment) :
    (c.step latest moment).1.Spent generation ∧
      ∀ call ∈ (c.step latest moment).2, call.task ≠ generation := by
  cases moment with
  | ticked => exact ⟨⟨hspent.known, hspent.gone⟩, by simp [Clocked.step]⟩
  | started base period factor =>
    rcases started_cases latest c base period factor with ⟨arming, _, heq⟩ | ⟨_, heq⟩
    · rw [heq]
      refine ⟨⟨Nat.le_succ_of_le hspent.known, ?_⟩, by simp⟩
      rintro slot ⟨⟩
      exact Nat.ne_of_gt (Nat.lt_succ_of_le hspent.known)
    · rw [heq]
      exact ⟨hspent, by simp⟩
  | stopped =>
    refine ⟨⟨?_, fun slot hslot => ?_⟩, by simp [Clocked.step]⟩
    · simp only [Clocked.step, stop_eq]
      exact Nat.le_trans hspent.known (h.abort.2.2 ▸ Nat.le_succ _)
    · cases hslot.symm.trans h.stop.2
  | returned task =>
    obtain ⟨_, hslot, hgeneration⟩ := h.returned task
    refine ⟨⟨?_, fun slot hsome => hspent.gone slot (hslot ▸ hsome)⟩, by simp [Clocked.step]⟩
    exact hgeneration.symm ▸ hspent.known
  | polled task =>
    simp only [Clocked.step]
    rcases h.poll_cases c.now task with
      ⟨slot, hslot, rfl, _, heq⟩ | ⟨other, _, _, _, heq⟩ | ⟨heq, _⟩
    · rw [heq]
      refine ⟨⟨hspent.known, fun other hother => by cases hother⟩, ?_⟩
      simpa using hspent.gone slot hslot
    · rw [heq]
      exact ⟨⟨hspent.known, hspent.gone⟩, by simp⟩
    · rw [heq]
      exact ⟨⟨hspent.known, hspent.gone⟩, by simp⟩

/-- Nor does it in any run. -/
theorem Spent.run (hspent : c.Spent generation) (h : c.refresher.Sound) (history : List Moment) :
    (c.after latest history).Spent generation ∧
      ∀ call ∈ c.calls latest history, call.task ≠ generation := by
  induction history generalizing c with
  | nil => exact ⟨hspent, by simp⟩
  | cons moment history ih =>
    obtain ⟨hnext, hcalls⟩ := hspent.step h moment
    obtain ⟨hend, hlater⟩ := ih hnext (sound_step h moment)
    exact ⟨hend, List.forall_mem_append.mpr ⟨hcalls, hlater⟩⟩

/-- The refresher waits since a time for the task of a slot, and the task is not late. -/
structure Awaits (c : Clocked) (slot : Slot) (begun : Nat) : Prop where
  waiting : c.refresher.slot = some slot
  later : begun ≤ c.now
  inTime : c.now ≤ max begun slot.arming.deadline.tick.toNat

/-- A start that does not fail is waited for. -/
theorem awaits_started {base : Instant} {period : Duration} {factor : Time.Factor} {arming : Arming}
    (c : Clocked) (harming : Arming.after? latest base period factor = some arming) :
    (c.step latest (.started base period factor)).1.Awaits
      ⟨c.refresher.generation + 1, arming⟩ c.now := by
  rcases started_cases latest c base period factor with ⟨other, hother, heq⟩ | ⟨hfails, _⟩
  · cases harming.symm.trans hother
    rw [heq]
    exact ⟨rfl, Nat.le_refl _, Nat.le_max_left _ _⟩
  · cases hfails.symm.trans harming

/-- While a task that is due has not run, the clock stands still. -/
theorem Awaits.ticked (hwaits : c.Awaits slot begun) (h : c.refresher.Sound) :
    (c.step latest .ticked).1.Awaits slot begun := by
  obtain ⟨hslot, hbegun, hinTime⟩ := hwaits
  refine ⟨hslot, ?_, ?_⟩
  · simp only [Clocked.step]
    split <;> omega
  · simp only [Clocked.step]
    split
    · exact hinTime
    · next hdue =>
      have hearly : ¬ slot.arming.deadline.tick ≤ (c.now : Int) := by
        intro hover
        refine hdue (List.any_eq_true.mpr ⟨_, h.sleeper_mem hslot, ?_⟩)
        rw [Slot.isLive_sleeper, Bool.true_and]
        exact decide_eq_true hover
      omega

/-- A task that is waited for is waited for still, or it calls the owner on time; unless there is
another start or a stop. -/
theorem Awaits.step (hwaits : c.Awaits slot begun) (h : c.refresher.Sound)
    (horder : moment.isOrder latest = false) :
    ((c.step latest moment).1.Awaits slot begun ∧ (c.step latest moment).2 = []) ∨
      (c.step latest moment).2 = [⟨max begun slot.arming.deadline.tick.toNat, slot.task⟩] ∧
        (c.step latest moment).1.refresher.slot = none ∧
          (c.step latest moment).1.Spent slot.task := by
  cases moment with
  | stopped => cases horder
  | started base period factor =>
    rcases started_cases latest c base period factor with ⟨arming, harming, _⟩ | ⟨_, heq⟩
    · simp [Moment.isOrder, Moment.isStart, harming] at horder
    · rw [heq]
      exact .inl ⟨hwaits, rfl⟩
  | ticked => exact .inl ⟨hwaits.ticked h, rfl⟩
  | returned task =>
    exact .inl ⟨⟨(h.returned task).2.1.trans hwaits.waiting, hwaits.later, hwaits.inTime⟩, rfl⟩
  | polled task =>
    simp only [Clocked.step]
    rcases h.poll_cases c.now task with
      ⟨found, hfound, rfl, hdue, heq⟩ | ⟨other, _, _, _, heq⟩ | ⟨heq, _⟩
    · cases hwaits.waiting.symm.trans hfound
      have hbegun := hwaits.later
      have hinTime := hwaits.inTime
      have htime : c.now = max begun slot.arming.deadline.tick.toNat := by omega
      rw [heq, ← htime]
      refine .inr ⟨rfl, rfl, ?_, fun other hother => by cases hother⟩
      exact Nat.le_of_eq (h.current slot hfound)
    · rw [heq]
      exact .inl ⟨⟨hwaits.waiting, hwaits.later, hwaits.inTime⟩, rfl⟩
    · rw [heq]
      exact .inl ⟨⟨hwaits.waiting, hwaits.later, hwaits.inTime⟩, rfl⟩

/-- Another start or a stop ends the wait for a task. -/
theorem Awaits.spent (hwaits : c.Awaits slot begun) (h : c.refresher.Sound)
    (horder : moment.isOrder latest = true) :
    (c.step latest moment).1.Spent slot.task ∧ (c.step latest moment).2 = [] := by
  have hcurrent := h.current slot hwaits.waiting
  cases moment with
  | ticked | polled | returned => cases horder
  | started base period factor =>
    rcases started_cases latest c base period factor with ⟨arming, _, heq⟩ | ⟨harming, _⟩
    · rw [heq]
      refine ⟨⟨hcurrent ▸ Nat.le_succ _, ?_⟩, rfl⟩
      rintro other ⟨⟩
      exact Nat.ne_of_gt (hcurrent ▸ Nat.lt_succ_self _)
    · simp [Moment.isOrder, Moment.isStart, harming] at horder
  | stopped =>
    refine ⟨⟨?_, fun other hother => by cases hother.symm.trans h.stop.2⟩, rfl⟩
    simp only [Clocked.step, stop_eq, hcurrent]
    exact Nat.le_succ _

/-- Until there is another start or a stop, a task that is waited for is waited for still, or it has
called the owner once, on time, and nothing is waited for. -/
theorem Awaits.run (hwaits : c.Awaits slot begun) (h : c.refresher.Sound)
    (horder : ∀ moment ∈ since, moment.isOrder latest = false) :
    (c.calls latest since = [] ∧ (c.after latest since).Awaits slot begun) ∨
      c.calls latest since = [⟨max begun slot.arming.deadline.tick.toNat, slot.task⟩] ∧
        (c.after latest since).refresher.slot = none ∧ (c.after latest since).Spent slot.task := by
  induction since generalizing c with
  | nil => exact .inl ⟨rfl, hwaits⟩
  | cons moment since ih =>
    obtain ⟨hhere, hrest⟩ := List.forall_mem_cons.mp horder
    have hsound : (c.step latest moment).1.refresher.Sound := sound_step h moment
    rcases hwaits.step h hhere with ⟨hnext, hcalls⟩ | ⟨hcalls, hslot, hspent⟩
    · simpa only [calls_cons, after_cons, hcalls, List.nil_append] using ih hnext hsound hrest
    · have hstart : ∀ moment ∈ since, moment.isStart latest = false := fun moment hmoment => by
        have hnone := hrest moment hmoment
        cases moment <;> first | rfl | exact hnone
      obtain ⟨hnone, hend⟩ := idle_run hsound hslot hstart
      refine .inr ⟨?_, hend, (hspent.run hsound since).1⟩
      rw [calls_cons, hcalls, hnone, List.append_nil]

/-- A task that is waited for calls the owner if it is run at its time. -/
theorem Awaits.due (hwaits : c.Awaits slot begun) (h : c.refresher.Sound)
    (hnow : c.now = max begun slot.arming.deadline.tick.toNat) :
    (c.step latest (.polled slot.task)).2 = [⟨c.now, slot.task⟩] := by
  simp only [Clocked.step]
  rcases h.poll_cases c.now slot.task with
    ⟨_, _, _, _, heq⟩ | ⟨other, hother, hsame, haborted, _⟩ | ⟨_, hearly⟩
  · rw [heq]
    rfl
  · rw [h.eq_sleeper hwaits.waiting hother hsame] at haborted
    cases haborted
  · have hlate := hearly slot hwaits.waiting rfl
    omega

/-! ### A call -/

/-- A task that calls the owner goes on with it whatever happens, until it returns. -/
theorem calling_step (h : c.refresher.Sound) {task : Task} (htask : task ∈ c.refresher.tasks)
    (hphase : task.phase = .calling) (hreturned : moment ≠ .returned task.generation) :
    task ∈ (c.step latest moment).1.refresher.tasks := by
  cases moment with
  | ticked => exact htask
  | started base period factor =>
    rcases started_cases latest c base period factor with ⟨arming, _, heq⟩ | ⟨_, heq⟩
    · rw [heq]
      exact h.mem_arm htask hphase arming
    · rw [heq]
      exact htask
  | stopped => exact h.mem_stop htask hphase
  | returned generation => exact mem_returned htask fun hsame => hreturned (hsame ▸ rfl)
  | polled generation => exact h.mem_poll htask hphase c.now generation

/-- So it does in any run. -/
theorem calling_run (h : c.refresher.Sound) {task : Task} (htask : task ∈ c.refresher.tasks)
    (hphase : task.phase = .calling) (hreturned : .returned task.generation ∉ since) :
    task ∈ (c.after latest since).refresher.tasks := by
  induction since generalizing c with
  | nil => exact htask
  | cons moment since ih =>
    rw [List.mem_cons, not_or] at hreturned
    exact ih (sound_step h moment) (calling_step h htask hphase (Ne.symm hreturned.1)) hreturned.2

/-- **One call for each start.** A refresher runs along with a clock that starts at any time and can
tell the time until `latest`. At any time, at most one task sleeps that is not to end, and it is the
one in the slot. After a stop, or as long as it was never started, until a start, nothing is pending
and nobody is called. A start whose delay is too long for a duration, or whose deadline is too late
for the clock, fails, and all is as before. Any other start is pending until it is due, at its
deadline or at once if that is past, and its task calls the owner when it is run then; or it has
called once, when it was due, and nothing is pending; that is so until the next such start or stop,
and from then on its task never calls. A task that calls the owner goes on with it, whatever is
started or stopped meanwhile, until it returns. -/
theorem start_calls_once (latest : Instant) (begun : Nat) (before : List Moment) :
    let c := after latest ⟨{}, begun⟩ before
    c.refresher.tasks.filter Task.isLive = (c.refresher.slot.map Slot.sleeper).toList ∧
    (((∀ moment ∈ before, moment.isStart latest = false) ∨
        ∃ earlier, before = earlier ++ [.stopped]) →
      ∀ since, (∀ moment ∈ since, moment.isStart latest = false) →
        c.calls latest since = [] ∧ (c.after latest since).timer.pending = none) ∧
    (∀ base period factor,
      (Arming.after? latest base period factor = none →
        c.step latest (.started base period factor) = (c, [])) ∧
      ∀ arming ∈ Arming.after? latest base period factor,
        arming = .after base period factor ∧
        ∀ since, (∀ moment ∈ since, moment.isOrder latest = false) →
          let task := c.refresher.generation + 1
          let armed := (c.step latest (.started base period factor)).1
          let due := max c.now arming.deadline.tick.toNat
          ((armed.calls latest since = [] ∧
              (armed.after latest since).timer.pending = some arming ∧
              (armed.after latest since).now ≤ due ∧
              ((armed.after latest since).now = due →
                ((armed.after latest since).step latest (.polled task)).2 = [⟨due, task⟩])) ∨
            armed.calls latest since = [⟨due, task⟩] ∧
              (armed.after latest since).timer.pending = none) ∧
          ∀ order rest, order.isOrder latest = true →
            ∀ call ∈ (armed.after latest since).calls latest (order :: rest),
              call.task ≠ task) ∧
    ∀ task ∈ c.refresher.tasks, task.phase = .calling →
      ∀ since, .returned task.generation ∉ since →
        task ∈ (c.after latest since).refresher.tasks := by
  intro c
  have hsound : c.refresher.Sound := sound_after sound_new before
  refine ⟨hsound.live, fun hbefore since hstart => ?_, fun base period factor => ⟨fun hfails => ?_,
    fun arming harming => ⟨(Arming.after?_eq_some_iff.mp harming).2.2, fun since horder => ?_⟩⟩,
    fun task htask hphase since hreturned => calling_run hsound htask hphase hreturned⟩
  · have hslot : c.refresher.slot = none := by
      rcases hbefore with hnever | ⟨earlier, rfl⟩
      · exact (idle_run (c := ⟨{}, begun⟩) sound_new rfl hnever).2
      · have hearlier : (after latest ⟨{}, begun⟩ earlier).refresher.Sound :=
          sound_after sound_new earlier
        simp only [c, after_concat]
        exact hearlier.stop.2
    obtain ⟨hcalls, hend⟩ := idle_run hsound hslot hstart
    exact ⟨hcalls, by rw [timer, Refresher.timer, hend]; rfl⟩
  · rcases started_cases latest c base period factor with ⟨arming, harming, _⟩ | ⟨_, heq⟩
    · cases hfails.symm.trans harming
    · exact heq
  · intro task armed due
    have harmed : armed.refresher.Sound := sound_step hsound (.started base period factor)
    have hwaits : armed.Awaits ⟨task, arming⟩ c.now := awaits_started c harming
    have hlater : (armed.after latest since).refresher.Sound := sound_after harmed since
    rcases hwaits.run harmed horder with ⟨hcalls, hstill⟩ | ⟨hcalls, hslot, hspent⟩
    · refine ⟨.inl ⟨hcalls, ?_, hstill.inTime, fun hnow => ?_⟩, fun order rest hordered => ?_⟩
      · rw [timer, Refresher.timer, hstill.waiting]
        rfl
      · rw [hstill.due hlater hnow, hnow]
      · obtain ⟨hspent, hnone⟩ := hstill.spent hlater hordered
        rw [calls_cons, hnone, List.nil_append]
        exact (hspent.run (sound_step hlater order) rest).2
    · refine ⟨.inr ⟨hcalls, by rw [timer, Refresher.timer, hslot]; rfl⟩, fun order rest _ => ?_⟩
      exact (hspent.run hlater _).2

/-- The latest point of time that the clock of the examples can tell. -/
def sampleLatest : Instant := 9_223_372_036_854_775_808 * 1_000_000_000

/-- An example: a refresher is started for five milliseconds, and two pass. -/
def sampleStarted : List Moment := [.started 0 (.ofMilliseconds 5) .one, .ticked, .ticked]

/-- An example: a start for twice the longest duration fails, the clock ticks on until a task is
due, and both tasks are run. -/
def sampleRun : List Moment :=
  [.started 0 (.ofSeconds Duration.maxSeconds) (.number false ⟨2, 0⟩), .ticked, .ticked, .ticked,
    .ticked, .polled 1, .polled 2]

/-- An example: in the call, the refresher is stopped and started, and the tasks are run. -/
def sampleInCall : List Moment :=
  [.stopped, .started 0 (.ofMilliseconds 9) .one, .polled 2, .ticked]

/-- In the example, the refresher is started again for three milliseconds. Only the second start
leads to a call, at the fifth millisecond, although a start failed meanwhile; what happens in the
call does not end it. -/
theorem second_start_calls_in_sample :
    ((after sampleLatest ⟨{}, 0⟩ sampleStarted).step sampleLatest
      (.started 2000000 (.ofMilliseconds 3) .one)).1.calls sampleLatest sampleRun = [⟨5, 2⟩] ∧
    (∀ call ∈ (((after sampleLatest ⟨{}, 0⟩ sampleStarted).step sampleLatest
        (.started 2000000 (.ofMilliseconds 3) .one)).1.after sampleLatest sampleRun).calls
          sampleLatest sampleInCall, call.task ≠ 2) ∧
    ⟨2, 5000000, .calling, false⟩ ∈
      ((after sampleLatest ⟨{}, 0⟩ (sampleStarted ++ .started 2000000 (.ofMilliseconds 3) .one ::
        sampleRun)).after sampleLatest sampleInCall).refresher.tasks := by
  have hstart := (((start_calls_once sampleLatest 0 sampleStarted).2.2.1 2000000
    (.ofMilliseconds 3) .one).2 (.after 2000000 (.ofMilliseconds 3) .one) (by decide +kernel)).2
      sampleRun (by decide +kernel)
  refine ⟨?_, hstart.2 .stopped _ rfl, ?_⟩
  · rcases hstart.1 with ⟨hnone, _⟩ | ⟨hcalls, _⟩
    · exact absurd hnone (by decide +kernel)
    · exact hcalls.trans (by decide +kernel)
  · exact (start_calls_once sampleLatest 0 (sampleStarted ++
      .started 2000000 (.ofMilliseconds 3) .one :: sampleRun)).2.2.2
        ⟨2, 5000000, .calling, false⟩ (by decide +kernel) rfl sampleInCall
        (by simp [sampleInCall])

end Clocked

end Refresher

end ImsClient
