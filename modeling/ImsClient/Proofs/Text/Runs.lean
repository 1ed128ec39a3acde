import ImsClient.Text.Blank
import Mathlib.Data.List.DropRight

/-!
# Runs and trims

A run of characters of one kind ends where a character of another kind stands. A trim takes the
runs of white space off both ends of a text, and goes no further.
-/

namespace ImsClient.Text

variable {p : Char → Bool} {run rest : List Char}

/-- No run is taken off a text that starts with a character of another kind. -/
theorem takeWhile_of_head? (hrest : ∀ c, rest.head? = some c → p c = false) :
    rest.takeWhile p = [] := by
  cases rest with
  | nil => rfl
  | cons c rest => exact List.takeWhile_cons_of_neg (by simp [hrest c rfl])

/-- Such a text is left as it is. -/
theorem dropWhile_of_head? (hrest : ∀ c, rest.head? = some c → p c = false) :
    rest.dropWhile p = rest := by
  cases rest with
  | nil => rfl
  | cons c rest => exact List.dropWhile_cons_of_neg (by simp [hrest c rfl])

/-- A run is taken up to a character of another kind. -/
theorem takeWhile_run (hrun : ∀ c ∈ run, p c = true)
    (hrest : ∀ c, rest.head? = some c → p c = false) : (run ++ rest).takeWhile p = run := by
  rw [List.takeWhile_append_of_pos hrun, takeWhile_of_head? hrest, List.append_nil]

/-- What is behind the run is left. -/
theorem dropWhile_run (hrun : ∀ c ∈ run, p c = true)
    (hrest : ∀ c, rest.head? = some c → p c = false) : (run ++ rest).dropWhile p = rest := by
  rw [List.dropWhile_append_of_pos hrun, dropWhile_of_head? hrest]

/-- What is left of a text without the white space at its end is how it starts. -/
theorem trimEnd_isPrefix (text : List Char) : trimEnd text <+: text :=
  List.rdropWhile_prefix isBlank text

/-- A trim at the end leaves the first character, if it leaves any. -/
theorem head?_of_head?_trimEnd {text : List Char} {c : Char} (h : (trimEnd text).head? = some c) :
    text.head? = some c := by
  obtain ⟨trimmedOff, htext⟩ := trimEnd_isPrefix text
  rw [← htext, List.head?_append, h, Option.some_or]

/-- A trim at the end goes no further than a character that is no white space. -/
theorem trimEnd_append {before : List Char} (after : List Char)
    (hbefore : ∀ c, before.getLast? = some c → isBlank c = false) :
    trimEnd (before ++ after) = before ++ trimEnd after := by
  have hkept : before.reverse.dropWhile isBlank = before.reverse := by
    refine dropWhile_of_head? fun c hc => hbefore c ?_
    rwa [List.head?_reverse] at hc
  unfold trimEnd
  rw [List.reverse_append, List.dropWhile_append]
  split
  · next hempty => rw [hkept, List.reverse_reverse, List.isEmpty_iff.mp hempty]; simp
  · rw [List.reverse_append, List.reverse_reverse]

end ImsClient.Text
