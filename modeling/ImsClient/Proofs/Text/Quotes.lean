import ImsClient.Proofs.Text.Runs
import ImsClient.Text.Quoted

/-!
# Quotes and white space around a text

A reader that takes white space and quotes off a value leaves every other text as it is. So a
text comes through unchanged exactly if it has neither at its ends.
-/

namespace ImsClient.Text

/-- A text with no white space at its ends, and no pair of quotes around it. -/
structure IsBare (text : String) : Prop where
  start : ∀ c, text.toList.head? = some c → isBlank c = false
  finish : ∀ c, text.toList.getLast? = some c → isBlank c = false
  unquoted : ∀ inside, text ≠ "\"" ++ inside ++ "\""

/-- What is left of a text without the white space at its ends. -/
theorem trimmed_sublist (text : List Char) : (trimmed text).Sublist text :=
  (trimEnd_isPrefix _).sublist.trans (List.dropWhile_sublist _)

/-- What is left of it without quotes. -/
theorem stripQuotes_sublist (text : List Char) : (stripQuotes text).Sublist (trimmed text) := by
  unfold stripQuotes
  split
  · next rest htrimmed =>
    rw [htrimmed]
    split
    · exact (List.dropLast_sublist rest).trans (List.sublist_cons_self _ _)
    · exact List.Sublist.refl _
  · exact List.Sublist.refl _

/-- A text is left as it is by a trim exactly if it has no white space at its ends. -/
theorem trimmed_eq_self_iff (text : List Char) :
    trimmed text = text ↔
      (∀ c, text.head? = some c → isBlank c = false) ∧
        ∀ c, text.getLast? = some c → isBlank c = false := by
  refine ⟨fun h => ?_, fun ⟨hstart, hend⟩ => trimmed_eq_self hstart hend⟩
  have hstart : trimStart text = text := by
    refine (List.dropWhile_sublist _).eq_of_length_le ?_
    calc text.length = (trimmed text).length := by rw [h]
      _ ≤ (trimStart text).length := (trimEnd_isPrefix _).length_le
  constructor
  · intro c hc
    have hhead := List.head?_dropWhile_not isBlank text
    rw [show text.dropWhile isBlank = text from hstart, hc] at hhead
    exact hhead
  · intro c hc
    rw [trimmed, hstart] at h
    have hlast := List.head?_dropWhile_not isBlank text.reverse
    have hreversed : text.reverse.dropWhile isBlank = text.reverse := by
      rw [← List.reverse_reverse (text.reverse.dropWhile isBlank)]
      exact congrArg List.reverse h
    rw [hreversed, List.head?_reverse, hc] at hlast
    exact hlast

/-- A text is read as it is exactly if it is bare. -/
theorem unquote_eq_self_iff (text : String) : unquote text = text ↔ IsBare text := by
  have hlist : unquote text = text ↔ stripQuotes text.toList = text.toList := by
    rw [← String.toList_inj, unquote, String.toList_ofList]
  have hquoted (inside : String) :
      text = "\"" ++ inside ++ "\"" ↔ text.toList = '"' :: (inside.toList ++ ['"']) := by
    simp [← String.toList_inj]
  rw [hlist]
  constructor
  · intro h
    have htrim : trimmed text.toList = text.toList := by
      refine (trimmed_sublist _).eq_of_length_le ?_
      calc text.toList.length = (stripQuotes text.toList).length := by rw [h]
        _ ≤ (trimmed text.toList).length := (stripQuotes_sublist _).length_le
    obtain ⟨hstart, hend⟩ := (trimmed_eq_self_iff _).mp htrim
    refine ⟨hstart, hend, fun inside htext => ?_⟩
    rw [hquoted] at htext
    rw [stripQuotes, htrim, htext] at h
    have hlength := congrArg List.length h
    simp only [List.length_cons, List.getLast?_append, List.getLast?_singleton, Option.some_or,
      List.dropLast_concat, List.length_append, List.length_nil] at hlength
    omega
  · rintro ⟨hstart, hend, hbare⟩
    rw [stripQuotes, trimmed_eq_self hstart hend]
    split
    · next rest htext =>
      split
      · next hlast =>
        obtain ⟨inside, rfl⟩ := List.getLast?_eq_some_iff.mp hlast
        refine absurd ((hquoted (String.ofList inside)).mpr ?_) (hbare _)
        rw [htext, String.toList_ofList]
      · exact htext.symm
    · rfl

/-- A pair of quotes around a text is taken off. -/
theorem unquote_quoted (inside : String) : unquote ("\"" ++ inside ++ "\"") = inside := by
  have hlist : ("\"" ++ inside ++ "\"").toList = '"' :: (inside.toList ++ ['"']) := by simp
  have htrim : trimmed ('"' :: (inside.toList ++ ['"'])) = '"' :: (inside.toList ++ ['"']) := by
    refine trimmed_eq_self (fun c hc => ?_) fun c hc => ?_
    · obtain rfl : '"' = c := Option.some.inj hc
      decide
    · rw [← List.cons_append, List.getLast?_concat, Option.some.injEq] at hc
      subst hc
      decide
  rw [← String.toList_inj, unquote, String.toList_ofList, hlist, stripQuotes, htrim]
  simp

end ImsClient.Text
