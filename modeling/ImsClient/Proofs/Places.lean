import Mathlib.Data.List.Basic

/-!
# Places in a list

Where an element stands in a list: what is found first under one test or another, the first
place of an element, the last place of all, and what remains when one element is left out.
-/

namespace ImsClient

variable {α : Type} {x : α}

/-- Two tests find the same element exactly if what the second finds passes the first, and nothing
that stands before does. -/
theorem find?_eq_find?_iff {p q : α → Bool} {xs : List α} :
    xs.find? p = xs.find? q ↔
      (∀ x, xs.find? q = some x → p x = true) ∧
        ∀ y ∈ xs.takeWhile fun y => !q y, p y = false := by
  induction xs with
  | nil => simp
  | cons y xs ih =>
    -- An element that only one of the two tests accepts is not what the other one finds.
    cases hp : p y <;> cases hq : q y <;>
      simp only [List.find?_cons, List.takeWhile_cons, hp, hq, Bool.not_true, Bool.not_false,
        if_true, Bool.false_eq_true, if_false, List.forall_mem_cons]
    case false.false => simpa using ih
    case true.true => simp [hp]
    case false.true =>
      have hother : xs.find? p ≠ some y := fun h => by simp [List.find?_some h] at hp
      simp [hp, hother]
    case true.false =>
      have hother : xs.find? q ≠ some y := fun h => by simp [List.find?_some h] at hq
      simp [Ne.symm hother]

/-- Between two first places of an element, the parts before it are the same, and so are those
behind. -/
theorem append_cons_inj_of_first {first first' rest rest' : List α}
    (heq : first ++ x :: rest = first' ++ x :: rest') (hfirst : x ∉ first) (hfirst' : x ∉ first') :
    first = first' ∧ rest = rest' := by
  induction first generalizing first' with
  | nil =>
    cases first' with
    | nil => exact ⟨rfl, (List.cons.inj heq).2⟩
    | cons y first' =>
      cases (List.cons.inj heq).1
      exact absurd List.mem_cons_self hfirst'
  | cons y first ih =>
    cases first' with
    | nil =>
      cases (List.cons.inj heq).1
      exact absurd List.mem_cons_self hfirst
    | cons z first' =>
      obtain ⟨rfl, htail⟩ := List.cons.inj heq
      obtain ⟨rfl, hrest⟩ := ih htail (fun h => hfirst (List.mem_cons_of_mem _ h))
        fun h => hfirst' (List.mem_cons_of_mem _ h)
      exact ⟨rfl, hrest⟩

/-- A place in a list with one more element at its end is that end, or a place in the list. -/
theorem split_concat {whole before since : List α} {found last : α}
    (hsplit : whole ++ [last] = before ++ found :: since) :
    (since = [] ∧ whole = before ∧ last = found) ∨
      ∃ rest, since = rest ++ [last] ∧ whole = before ++ found :: rest := by
  rcases List.eq_nil_or_concat since with rfl | ⟨rest, other, rfl⟩
  · obtain ⟨rfl, heq⟩ := List.append_inj' hsplit rfl
    cases heq
    exact .inl ⟨rfl, rfl, rfl⟩
  · rw [List.concat_eq_append, ← List.cons_append, ← List.append_assoc] at hsplit
    obtain ⟨hwhole, heq⟩ := List.append_inj' hsplit rfl
    cases heq
    exact .inr ⟨rest, List.concat_eq_append, hwhole⟩

/-- Where one element is left out and all others are kept, all others remain. -/
theorem filter_perm_of_perm_cons {p : α → Bool} {xs rest : List α}
    (hperm : xs.Perm (x :: rest)) (hx : p x = false) (hrest : ∀ y ∈ rest, p y = true) :
    (xs.filter p).Perm rest := by
  have hfilter := hperm.filter p
  rwa [List.filter_cons, hx, if_neg Bool.false_ne_true, List.filter_eq_self.mpr hrest] at hfilter

end ImsClient
