/-!
# Runs

A machine takes in one thing after another: events, acts or moments. What holds of the runs of
every machine is said here once, for any step from a state and an input to the next state: where a
run leads that goes on, what is observed along it, and how what every step keeps is kept by every
run.
-/

namespace ImsClient.Run

variable {σ ι α : Type}

/-- Where a run leads, by the step of the machine. -/
def after (next : σ → ι → σ) (s : σ) (history : List ι) : σ := history.foldl next s

/-- What is observed along a run, where an observation is made of the state that each input
finds. -/
def along (next : σ → ι → σ) (observe : σ → ι → List α) (s : σ) : List ι → List α
  | [] => []
  | input :: rest => observe s input ++ along next observe (next s input) rest

variable {next : σ → ι → σ} {observe : σ → ι → List α}

@[simp] theorem after_nil (s : σ) : after next s [] = s := rfl

@[simp] theorem along_nil (s : σ) : along next observe s [] = [] := rfl

/-- What is observed along a run is observed of its first input, and then along the rest. -/
theorem along_cons (s : σ) (input : ι) (rest : List ι) :
    along next observe s (input :: rest) =
      observe s input ++ along next observe (next s input) rest := rfl

/-- A run that goes on leads where its rest leads from where it stood. -/
theorem after_append (s : σ) (first rest : List ι) :
    after next s (first ++ rest) = after next (after next s first) rest :=
  List.foldl_append

/-- One more input takes the machine one step further. -/
theorem after_concat (s : σ) (history : List ι) (input : ι) :
    after next s (history ++ [input]) = next (after next s history) input :=
  after_append s history [input]

/-- What is observed along a run that goes on is what was observed, and then what is observed from
where it stood. -/
theorem along_append (s : σ) (first rest : List ι) :
    along next observe s (first ++ rest) =
      along next observe s first ++ along next observe (after next s first) rest := by
  induction first generalizing s with
  | nil => rfl
  | cons input first ih =>
    rw [List.cons_append, along_cons, ih, along_cons, List.append_assoc]
    rfl

/-- One more input adds what is observed of it. -/
theorem along_concat (s : σ) (history : List ι) (input : ι) :
    along next observe s (history ++ [input]) =
      along next observe s history ++ observe (after next s history) input := by
  rw [along_append, along_cons, along_nil, List.append_nil]

/-- What is observed along a run is observed of some input, after those before it. -/
theorem mem_along {x : α} (s : σ) (history : List ι) :
    x ∈ along next observe s history ↔
      ∃ before input rest, history = before ++ input :: rest ∧
        x ∈ observe (after next s before) input := by
  induction history generalizing s with
  | nil => simp
  | cons input history ih =>
    simp only [along_cons, List.mem_append, ih]
    constructor
    · rintro (hhere | ⟨before, found, rest, rfl, hlater⟩)
      · exact ⟨[], input, history, rfl, hhere⟩
      · exact ⟨input :: before, found, rest, rfl, hlater⟩
    · rintro ⟨before, found, rest, hsplit, hobserved⟩
      cases before with
      | nil =>
        cases hsplit
        exact .inl hobserved
      | cons first before =>
        cases hsplit
        exact .inr ⟨before, found, rest, rfl, hobserved⟩

/-- What holds of a run of no inputs, and goes on to hold with one more input, holds of every run
and the state after it. -/
theorem after_induction {p : List ι → σ → Prop} (s : σ) (hnil : p [] s)
    (hstep : ∀ history input, p history (after next s history) →
      p (history ++ [input]) (next (after next s history) input))
    (history : List ι) : p history (after next s history) := by
  suffices hrest : ∀ rest done, p done (after next s done) →
      p (done ++ rest) (after next s (done ++ rest)) from
    hrest history [] hnil
  intro rest
  -- On what is left of the run; the part that is over grows by one input at a time.
  induction rest with
  | nil =>
    intro done hdone
    rwa [List.append_nil]
  | cons input rest ih =>
    intro done hdone
    have hnext : p (done ++ [input]) (after next s (done ++ [input])) := by
      rw [after_concat]
      exact hstep done input hdone
    simpa only [List.append_assoc, List.singleton_append] using ih _ hnext

/-- What every step keeps is kept by every run. -/
theorem keeps {p : σ → Prop} (hstep : ∀ s input, p s → p (next s input)) {s : σ} (hs : p s)
    (history : List ι) : p (after next s history) :=
  after_induction (p := fun _ s => p s) s hs (fun _ input => hstep _ input) history

end ImsClient.Run
