import ImsClient.Proofs.Text.Runs
import ImsClient.Sip.Challenge

/-!
# Tokens, words and separators

A token is read up to the first character that can stand in none, a word as far as it goes,
and a separator that no white space surrounds as the one character that it is. No white
space stands ahead of any of them.
-/

namespace ImsClient.Sip

variable {text rest : List Char} {c : Char}

/-- A run of characters that can stand in a token, at least one of them. -/
def IsToken (text : List Char) : Prop := text ≠ [] ∧ text.all isTokenChar = true

instance (text : List Char) : Decidable (IsToken text) := inferInstanceAs (Decidable (_ ∧ _))

/-- A hexadecimal digit can stand in a token. -/
theorem isTokenChar_of_isLowerHex (hc : isLowerHex c = true) : isTokenChar c = true := by
  simp only [isLowerHex, Bool.or_eq_true, Bool.and_eq_true, decide_eq_true_eq] at hc
  simp only [isTokenChar, isAlphanumeric, Bool.or_eq_true]
  refine .inl (hc.symm.imp_left fun hletter => ?_)
  have hlower : c.isLower = true := by
    have hlast : c.val ≤ 'z'.val := UInt32.le_trans hletter.2 (by decide)
    exact Bool.and_eq_true_iff.mpr ⟨decide_eq_true hletter.1, decide_eq_true hlast⟩
  show (c.isUpper || c.isLower) = true
  rw [hlower, Bool.or_true]

/-- A token is read up to what is none. -/
theorem token?_append (htoken : IsToken text) (hrest : ∀ c ∈ rest.head?, isTokenChar c = false) :
    token? (text ++ rest) = some (text, rest) := by
  have hall : ∀ c ∈ text, isTokenChar c = true := List.all_eq_true.mp htoken.2
  unfold token? run?
  rw [Text.takeWhile_run hall hrest, Text.dropWhile_run hall hrest]
  cases text with
  | nil => exact absurd rfl htoken.1
  | cons c text => rfl

/-- A character that can stand in a token is none that cannot. -/
theorem ne_of_isTokenChar {other : Char} (hc : isTokenChar c = true)
    (hother : isTokenChar other = false) : c ≠ other := by
  rintro rfl
  rw [hc] at hother
  cases hother

/-- No white space stands ahead of another character. -/
theorem blanks?_cons (hblank : isInlineBlank c = false) (hreturn : c ≠ '\r') (hline : c ≠ '\n') :
    blanks? (c :: rest) = none := by
  have hend : lineEnd? (c :: rest) = none := by
    unfold lineEnd?
    split <;> simp_all
  simp [blanks?, hblank, hend]

/-- None stands ahead of a token. -/
theorem blanks?_token (htoken : IsToken text) : blanks? (text ++ rest) = none := by
  obtain ⟨c, more, rfl⟩ := List.exists_cons_of_ne_nil htoken.1
  have hc : isTokenChar c = true := List.all_eq_true.mp htoken.2 c (by simp)
  have hblank : isInlineBlank c = false := by
    rw [isInlineBlank, Bool.or_eq_false_iff, decide_eq_false_iff_not, decide_eq_false_iff_not]
    exact ⟨ne_of_isTokenChar hc (by decide), ne_of_isTokenChar hc (by decide)⟩
  exact blanks?_cons hblank (ne_of_isTokenChar hc (by decide)) (ne_of_isTokenChar hc (by decide))

/-- A separator is read that no white space surrounds. -/
theorem separator?_cons (hhere : blanks? (c :: rest) = none) (hthere : blanks? rest = none) :
    separator? c (c :: rest) = some rest := by
  simp [separator?, skipBlanks, char?, hhere, hthere]

/-- A word is read up to its end. -/
theorem word?_append (word : String) (rest : List Char) :
    word? word (word.toList ++ rest) = some rest := by
  have hlength : word.length = word.toList.length := String.length_toList.symm
  unfold word?
  simp only [hlength, List.take_left', List.drop_left', String.ofList_toList, Text.alike_refl,
    if_true]

end ImsClient.Sip
