import Mathlib.Data.List.Nodup

/-!
# Entries under their keys

A list of entries is looked up under a key. What is found is an entry, and where no two
entries have that key it is the only one.
-/

namespace ImsClient

variable {α β : Type} [BEq α] [LawfulBEq α] {entries : List (α × β)} {key : α} {value : β}

/-- What is looked up is an entry. -/
theorem mem_of_lookup (hlookup : entries.lookup key = some value) : (key, value) ∈ entries := by
  obtain ⟨before, rest, rfl, _⟩ := List.lookup_eq_some_iff.mp hlookup
  simp

/-- If no two entries are under a key, looking it up gives the one that is. -/
theorem lookup_eq_some_iff_mem
    (hunique : ∀ other, (key, other) ∈ entries → (key, value) ∈ entries → other = value) :
    entries.lookup key = some value ↔ (key, value) ∈ entries := by
  refine ⟨mem_of_lookup, fun hvalue => ?_⟩
  cases hlookup : entries.lookup key with
  | none =>
    have hother := List.lookup_eq_none_iff.mp hlookup _ hvalue
    simp at hother
  | some other => rw [hunique other (mem_of_lookup hlookup) hvalue]

/-- So it is where all keys differ. -/
theorem lookup_eq_some_iff_mem_of_nodup (hkeys : (entries.map Prod.fst).Nodup) :
    entries.lookup key = some value ↔ (key, value) ∈ entries :=
  lookup_eq_some_iff_mem fun _ hother hvalue =>
    congrArg Prod.snd (List.inj_on_of_nodup_map hkeys hother hvalue rfl)

end ImsClient
