import ImsClient.Json.Decode
import Mathlib.Algebra.Order.Ring.Nat

/-!
# Values and their shapes

What is written in a shape is read back in that shape: a text, a value that may be
missing, a list, an integer that fits its bits, a choice by its name. The fields of an
object are found under their names, and those under unknown names are left out.
-/

namespace ImsClient.Json

variable {α : Type} {write : α → Json} {read? : Json → Option α}

@[simp] theorem string?_ofString (text : String) : string? (ofString text) = some text := rfl

/-- A value that may be missing is read back if no value is written as null. -/
theorem option?_ofOption (hread : ∀ value, read? (write value) = some value)
    (hnull : ∀ value, write value ≠ null) (value : Option α) :
    option? read? (ofOption write value) = some value := by
  cases value with
  | none => rfl
  | some value =>
    rw [ofOption, option?]
    · rw [hread]
      rfl
    · exact hnull value

/-- A list is read back item by item. -/
theorem list?_map (hread : ∀ value, read? (write value) = some value) (values : List α) :
    list? read? (array (values.map write)) = some values := by
  rw [list?]
  induction values with
  | nil => rfl
  | cons value values ih => simp [hread, ih]

/-- An integer that is read is within the bounds. -/
theorem bounds_of_integer? {least greatest value : Int} {doc : Json}
    (h : integer? least greatest doc = some value) : least ≤ value ∧ value ≤ greatest := by
  unfold integer? at h
  split at h
  · split at h
    · next hbounds => exact Option.some.inj h ▸ hbounds
    · cases h
  · cases h

/-- A whole number is read back if it has no more bits. -/
theorem natural?_integer {bits n : Nat} (hn : n < 2 ^ bits) :
    natural? bits (integer n) = some n := by
  have hbound : (n : Int) ≤ ((1 <<< bits : Nat) : Int) - 1 := by
    rw [Nat.one_shiftLeft]
    omega
  rw [natural?, integer?, if_pos ⟨Int.natCast_nonneg n, hbound⟩]
  rfl

/-- A whole number that is read has no more bits. -/
theorem lt_of_natural? {bits n : Nat} {doc : Json} (h : natural? bits doc = some n) :
    n < 2 ^ bits := by
  obtain ⟨value, hvalue, rfl⟩ := Option.map_eq_some_iff.mp h
  have hbounds := bounds_of_integer? hvalue
  rw [Nat.one_shiftLeft] at hbounds
  omega

/-- An integer is read back if it has no more bits, one of them for the sign. -/
theorem signed?_integer {bits : Nat} {value : Int}
    (hleast : -((2 ^ (bits - 1) : Nat) : Int) ≤ value)
    (hgreatest : value < ((2 ^ (bits - 1) : Nat) : Int)) :
    signed? bits (integer value) = some value := by
  rw [signed?, Nat.one_shiftLeft, integer?, if_pos ⟨hleast, by omega⟩]

/-- An integer that is read has no more bits. -/
theorem bounds_of_signed? {bits : Nat} {doc : Json} {value : Int}
    (h : signed? bits doc = some value) :
    -((2 ^ (bits - 1) : Nat) : Int) ≤ value ∧ value < ((2 ^ (bits - 1) : Nat) : Int) := by
  have hbounds := bounds_of_integer? h
  rw [Nat.one_shiftLeft] at hbounds
  omega

/-- A choice is read back by its name if no other one has that name. -/
theorem choice?_ofString {label : α → String} {all : List α} {value : α} (hmem : value ∈ all)
    (hlabel : ∀ other ∈ all, label other = label value → other = value) :
    choice? label all (ofString (label value)) = some value := by
  show (all.find? fun other => label other = label value) = some value
  cases hfound : all.find? fun other => label other = label value with
  | none => exact absurd (List.find?_eq_none.mp hfound value hmem) (by simp)
  | some other =>
    have hname := List.find?_some hfound
    rw [hlabel other (List.mem_of_find?_eq_some hfound) (by simpa using hname)]

/-- The names of written fields are all text. -/
theorem mapM_names (given : List (String × Json)) :
    ((given.map fun (name, value) => (some name, value)).mapM fun (name, value) =>
      name.map fun text => (text, value)) = some given := by
  induction given with
  | nil => rfl
  | cons field given ih => simp [ih]

/-- The fields under known names are found, if each of them is there once at most. -/
theorem fields?_ofFields {known : List String} {given : List (String × Json)}
    (h : ((given.filter fun field => known.contains field.1).map Prod.fst).Nodup) :
    fields? known (ofFields given) = some (given.filter fun field => known.contains field.1) := by
  rw [ofFields, fields?, mapM_names]
  exact if_pos h

/-- What all read values have, and the default as well, a field with a default has. -/
theorem forall_defaulted? {p : α → Prop} {fields : List (String × Json)} {name : String}
    {default value : α} (h : defaulted? fields name read? default = some value)
    (hread : ∀ {doc value}, read? doc = some value → p value) (hdefault : p default) : p value := by
  unfold defaulted? at h
  split at h
  · exact hread h
  · exact Option.some.inj h ▸ hdefault

end ImsClient.Json
