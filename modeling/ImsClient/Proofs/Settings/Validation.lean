import ImsClient.Registration.Procedure

/-!
# Usable settings

Settings are checked field by field, and the first fault is told. What passes every check
is what a client can be built of.
-/

namespace ImsClient.Settings

/-! ### Checks -/

section Checks

variable {α : Type} {c : Prop} [Decidable c] {e fault : Error} {next : Unit → Except Error Unit}
  {found : Except Error α} {rest : α → Except Error Unit}

/-- A check is passed, and so are those after it. -/
theorem check_eq_ok_iff :
    (if c then throw e >>= next else next ()) = .ok () ↔ ¬c ∧ next () = .ok () := by
  by_cases hc : c
  · simp only [hc, if_true, not_true, false_and, iff_false]
    exact nofun
  · simp [hc]

/-- The first check that fails tells its fault. -/
theorem check_eq_error_iff :
    (if c then throw e >>= next else next ()) = .error fault ↔
      c ∧ e = fault ∨ ¬c ∧ next () = .error fault := by
  by_cases hc : c
  · simp only [hc, if_true, true_and, not_true, false_and, or_false]
    exact ⟨Except.error.inj, congrArg Except.error⟩
  · simp [hc]

theorem last_check_eq_ok_iff : (if c then throw e else pure () : Except Error Unit) = .ok () ↔ ¬c :=
  check_eq_ok_iff.trans (and_iff_left rfl)

theorem last_check_eq_error_iff :
    (if c then throw e else pure () : Except Error Unit) = .error fault ↔ c ∧ e = fault :=
  check_eq_error_iff.trans (or_iff_left nofun)

/-- To read something is a check as well. -/
theorem read_eq_ok_iff :
    (found >>= rest) = .ok () ↔ ∃ value, found = .ok value ∧ rest value = .ok () := by
  cases found with
  | error e => exact ⟨nofun, nofun⟩
  | ok value => exact ⟨fun h => ⟨value, rfl, h⟩, fun ⟨_, hvalue, h⟩ => Except.ok.inj hvalue ▸ h⟩

theorem read_eq_error_iff :
    (found >>= rest) = .error fault ↔
      found = .error fault ∨ ∃ value, found = .ok value ∧ rest value = .error fault := by
  cases found with
  | error e =>
    refine ⟨fun h => .inl (congrArg Except.error (Except.error.inj h)), fun h => ?_⟩
    rcases h with h | ⟨_, hvalue, _⟩
    · exact congrArg Except.error (Except.error.inj h)
    · cases hvalue
  | ok value =>
    refine ⟨fun h => .inr ⟨value, rfl, h⟩, fun h => ?_⟩
    rcases h with h | ⟨_, hvalue, h⟩
    · cases h
    · exact Except.ok.inj hvalue ▸ h

end Checks

/-! ### What is usable -/

variable {s : Settings}

/-- What settings must be like, all of it. -/
theorem validate_eq_ok_iff (s : Settings) :
    s.validate = .ok () ↔
      Text.isAllBlank s.homeDomain = false ∧ Text.isAllBlank s.publicUri = false ∧
        s.registrationExpiry ≠ 0 ∧ s.transactionTimeout ≠ 0 ∧ 0 ≤ s.capabilityWindow ∧
          (∃ level, LogLevel.ofText s.logLevel = .ok level) ∧
            ¬(s.procedure = .digest ∧ s.credentials? = none) := by
  simp only [validate, check_eq_ok_iff, read_eq_ok_iff, last_check_eq_ok_iff, exists_and_right,
    Bool.not_eq_true, Int.not_lt, ne_eq]

/-- Usable settings ask for a positive lifetime. -/
theorem expiry_pos_of_validate (h : s.validate = .ok ()) : 0 < s.registrationExpiry := by
  obtain ⟨-, -, hexpiry, -⟩ := (validate_eq_ok_iff s).mp h
  exact Nat.pos_of_ne_zero hexpiry

/-- A level that is none is told of as settings. -/
theorem exists_config_of_ofText {text : String} {e : Error} (h : LogLevel.ofText text = .error e) :
    ∃ shown, e = .config shown := by
  unfold LogLevel.ofText at h
  split at h
  · cases h
  · exact ⟨_, (Except.error.inj h).symm⟩

/-- Whatever is wrong with settings is told of as such. -/
theorem exists_config_of_validate {e : Error} (h : s.validate = .error e) :
    ∃ text, e = .config text := by
  simp only [validate, check_eq_error_iff, read_eq_error_iff, last_check_eq_error_iff] at h
  rcases h with
    ⟨-, rfl⟩ | ⟨-, ⟨-, rfl⟩ | ⟨-, ⟨-, rfl⟩ | ⟨-, ⟨-, rfl⟩ | ⟨-, ⟨-, rfl⟩ | ⟨-, hread⟩⟩⟩⟩⟩
  iterate 5 exact ⟨_, rfl⟩
  rcases hread with hlevel | ⟨-, -, -, rfl⟩
  · exact exists_config_of_ofText hlevel
  · exact ⟨_, rfl⟩

/-- Settings that are usable have a procedure and a way of logging. -/
theorem exists_of_validate (h : s.validate = .ok ()) :
    (∃ procedure, Registration.Procedure.ofSettings s = .ok procedure) ∧
      ∃ logging, s.logging = .ok logging := by
  obtain ⟨-, -, -, -, -, ⟨level, hlevel⟩, hcredentials⟩ := (validate_eq_ok_iff s).mp h
  constructor
  · unfold Registration.Procedure.ofSettings
    cases hprocedure : s.procedure with
    | giba => exact ⟨_, rfl⟩
    | digest =>
      cases hfound : s.credentials? with
      | none => exact absurd ⟨hprocedure, hfound⟩ hcredentials
      | some credentials => exact ⟨_, rfl⟩
  · rw [logging, hlevel]
    exact ⟨_, rfl⟩

end ImsClient.Settings
