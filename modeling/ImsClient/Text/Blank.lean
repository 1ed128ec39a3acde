/-!
# White space

The white space of Unicode, and texts with the white space at their ends taken
off or with that between words made one blank. Header values, log levels and
feature tags are read after such a trim.
-/

namespace ImsClient.Text

/-- White space: the characters that have the Unicode property of that name. -/
def isBlank (c : Char) : Bool :=
  let n := c.toNat
  (9 ≤ n && n ≤ 13) || n == 0x20 || n == 0x85 || n == 0xA0 || n == 0x1680 ||
    (0x2000 ≤ n && n ≤ 0x200A) || n == 0x2028 || n == 0x2029 || n == 0x202F ||
    n == 0x205F || n == 0x3000

example : isBlank ' ' ∧ isBlank '\t' ∧ isBlank '\u3000' ∧ ¬ isBlank '\u200b' := by decide

/-- A list of characters without the white space it starts with. -/
def trimStart (text : List Char) : List Char :=
  text.dropWhile isBlank

/-- A list of characters without the white space it ends with. -/
def trimEnd (text : List Char) : List Char :=
  (text.reverse.dropWhile isBlank).reverse

/-- A list of characters without the white space at either end. -/
def trimmed (text : List Char) : List Char :=
  trimEnd (trimStart text)

/-- A text without the white space at either end. -/
def trim (text : String) : String :=
  String.ofList (trimmed text.toList)

/-- A list of characters with every run of white space made one blank. -/
def squeezed : List Char → List Char
  | [] => []
  | c :: rest =>
    if isBlank c then
      match squeezed rest with
      | ' ' :: after => ' ' :: after
      | after => ' ' :: after
    else c :: squeezed rest

/-- The words of a list of characters, one blank between each two of them. -/
def collapsed (text : List Char) : List Char :=
  squeezed (trimmed text)

example : collapsed " a \r\n\tb ".toList = "a b".toList := by decide

/-- A text of nothing but white space. -/
def isAllBlank (text : String) : Bool :=
  text.toList.all isBlank

@[simp] theorem trimmed_nil : trimmed [] = [] := rfl

/-- A text that neither starts nor ends with white space is left as it is. -/
theorem trimmed_eq_self {text : List Char}
    (hstart : ∀ c, text.head? = some c → isBlank c = false)
    (hend : ∀ c, text.getLast? = some c → isBlank c = false) : trimmed text = text := by
  have h1 : trimStart text = text := by
    cases text with
    | nil => rfl
    | cons c rest => simp [trimStart, List.dropWhile, hstart c rfl]
  unfold trimmed
  rw [h1]
  unfold trimEnd
  cases hr : text.reverse with
  | nil => simpa using hr.symm
  | cons c rest =>
    have hlast : text.getLast? = some c := by
      have htext : text = rest.reverse ++ [c] := by
        have := congrArg List.reverse hr
        simpa using this
      rw [htext]
      simp
    rw [List.dropWhile_cons_of_neg (by simp [hend c hlast]), ← hr, List.reverse_reverse]

end ImsClient.Text
