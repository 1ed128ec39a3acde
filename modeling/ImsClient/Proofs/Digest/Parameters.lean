import ImsClient.Proofs.Sip.Grammar

/-!
# Parameters as they are written and read

Parameters stand behind one another, each with a comma before it, and a value may stand
between quotes. What stands there unprotected is read back exactly if nothing in it looks
like an end of the quotes or, to a reader that resolves them, like an escape. So a row of
parameters is read as it was meant if the values between quotes are of that kind, and
only then.
-/

namespace ImsClient.Digest

/-! ### Reading parameters -/

/-- How a reader takes a text between quotes: a backslash keeps the next character from closing
them, and is either kept in the text or taken off. -/
inductive Quoting where
  | kept
  | resolved
deriving DecidableEq, Repr

namespace Quoting

/-- What is read of an escaped character. -/
def pair : Quoting → Char → List Char
  | kept, c => ['\\', c]
  | resolved, c => [c]

/-- Reads a text up to its closing quote. -/
def inside? (quoting : Quoting) : List Char → Option (List Char × List Char)
  | [] => none
  | c :: rest =>
    if c = '"' then some ([], rest)
    else if c = '\\' then
      match rest with
      | [] => none
      | next :: rest =>
        (quoting.inside? rest).map fun (inside, after) => (quoting.pair next ++ inside, after)
    else (quoting.inside? rest).map fun (inside, after) => (c :: inside, after)

section

variable (quoting : Quoting) (rest : List Char)

@[simp] theorem inside?_quote : quoting.inside? ('"' :: rest) = some ([], rest) := by
  rw [inside?.eq_def]
  rfl

@[simp] theorem inside?_pair (next : Char) :
    quoting.inside? ('\\' :: next :: rest) =
      (quoting.inside? rest).map fun (inside, after) => (quoting.pair next ++ inside, after) := by
  rw [inside?.eq_def]
  rfl

theorem inside?_cons {c : Char} (hquote : c ≠ '"') (hslash : c ≠ '\\') :
    quoting.inside? (c :: rest) =
      (quoting.inside? rest).map fun (inside, after) => (c :: inside, after) := by
  rw [inside?.eq_def]
  simp only [hquote, hslash, if_false]

end

/-- Reads a value, between quotes or a token. -/
def value? (quoting : Quoting) : List Char → Option (String × List Char)
  | '"' :: rest => (quoting.inside? rest).map fun (inside, after) => (String.ofList inside, after)
  | text => (Sip.token? text).map fun (value, after) => (String.ofList value, after)

/-- Reads `name=value`. -/
def param? (quoting : Quoting) (text : List Char) : Option ((String × String) × List Char) := do
  let (name, rest) ← Sip.token? text
  let (value, after) ← quoting.value? (← Sip.separator? '=' rest)
  return ((String.ofList name, value), after)

/-- Whether a text has no quote without a backslash before it, and no backslash that would escape
what comes after the text. -/
def isProtected : List Char → Bool
  | [] => true
  | c :: rest =>
    if c = '"' then false
    else if c = '\\' then
      match rest with
      | [] => false
      | _ :: rest => isProtected rest
    else isProtected rest

/-- Texts that can stand between quotes as they are. -/
def Fits : Quoting → List Char → Prop
  | kept, text => isProtected text = true
  | resolved, text => '"' ∉ text ∧ '\\' ∉ text

instance : (quoting : Quoting) → (text : List Char) → Decidable (quoting.Fits text)
  | kept, text => inferInstanceAs (Decidable (isProtected text = true))
  | resolved, text => inferInstanceAs (Decidable ('"' ∉ text ∧ '\\' ∉ text))

/-- A text without quotes and backslashes is protected. -/
theorem isProtected_of_plain {text : List Char} (hquote : '"' ∉ text) (hslash : '\\' ∉ text) :
    isProtected text = true := by
  fun_induction isProtected text <;> simp_all

/-- It fits, whatever becomes of backslashes. -/
theorem fits_of_plain (quoting : Quoting) {text : List Char} (hquote : '"' ∉ text)
    (hslash : '\\' ∉ text) : quoting.Fits text :=
  match quoting with
  | kept => isProtected_of_plain hquote hslash
  | resolved => ⟨hquote, hslash⟩

/-- Hexadecimal digits fit. -/
theorem fits_of_isLowerHex (quoting : Quoting) {text : List Char}
    (htext : ∀ c ∈ text, Sip.isLowerHex c = true) : quoting.Fits text :=
  quoting.fits_of_plain (fun hmem => absurd (htext _ hmem) (by decide))
    fun hmem => absurd (htext _ hmem) (by decide)

/-- A text that fits is read up to the quote behind it. -/
theorem inside?_of_fits {quoting : Quoting} {text : List Char} (hfits : quoting.Fits text)
    (rest : List Char) : quoting.inside? (text ++ '"' :: rest) = some (text, rest) := by
  cases quoting with
  | kept =>
    simp only [Fits] at hfits
    fun_induction isProtected text with
    | case1 => exact inside?_quote kept rest
    | case2 => cases hfits
    | case3 => cases hfits
    | case4 next text _ ih => simp [pair, ih hfits]
    | case5 c text hquote hslash ih => simp [inside?_cons kept _ hquote hslash, ih hfits]
  | resolved =>
    induction text with
    | nil => exact inside?_quote resolved rest
    | cons c text ih =>
      simp only [Fits, List.mem_cons, not_or] at hfits
      obtain ⟨⟨hquote, hquotes⟩, hslash, hslashes⟩ := hfits
      simp [inside?_cons resolved _ (Ne.symm hquote) (Ne.symm hslash), ih ⟨hquotes, hslashes⟩]

/-- A reader that keeps backslashes reads a text before a quote only if it fits. -/
theorem fits_of_kept {text rest after : List Char}
    (hread : kept.inside? (text ++ '"' :: rest) = some (text, after)) :
    kept.Fits text ∧ after = rest := by
  simp only [Fits]
  fun_induction isProtected text with
  | case1 => simpa [eq_comm] using hread
  | case2 => simp at hread
  | case3 => simp [pair] at hread
  | case4 next text _ ih =>
    refine ih ?_
    simpa [pair] using hread
  | case5 c text hquote hslash ih =>
    refine ih ?_
    simpa [inside?_cons kept _ hquote hslash] using hread

/-- A reader that takes backslashes off never reads a text with further ones before it. -/
theorem inside?_resolved_ne (count : Nat) (text rest after : List Char) :
    resolved.inside? (text ++ '"' :: rest) ≠
      some (List.replicate (count + 1) '\\' ++ text, after) := by
  intro hread
  induction text using isProtected.induct generalizing count with
  | case1 => simp at hread
  | case2 => simp at hread
  | case3 => simp [pair, List.replicate_succ] at hread
  | case4 next text _ ih =>
    -- One backslash was taken off, and another one is left for it.
    obtain ⟨hread, rfl⟩ : resolved.inside? (text ++ '"' :: rest) =
        some (List.replicate count '\\' ++ '\\' :: next :: text, after) ∧ next = '\\' := by
      simpa [pair, List.replicate_succ] using hread
    refine ih (count + 1) ?_
    rw [hread, List.replicate_succ', List.replicate_succ']
    simp
  | case5 c text hquote hslash =>
    simp [inside?_cons resolved _ hquote hslash, List.replicate_succ, hslash] at hread

/-- So it reads a text before a quote only if it fits. -/
theorem fits_of_resolved {text rest after : List Char}
    (hread : resolved.inside? (text ++ '"' :: rest) = some (text, after)) :
    resolved.Fits text ∧ after = rest := by
  simp only [Fits]
  induction text using isProtected.induct with
  | case1 => simpa [eq_comm] using hread
  | case2 => simp at hread
  | case3 => simp [pair] at hread
  | case4 next text =>
    obtain ⟨hread, rfl⟩ : resolved.inside? (text ++ '"' :: rest) =
        some (next :: text, after) ∧ next = '\\' := by
      simpa [pair] using hread
    exact absurd hread (inside?_resolved_ne 0 text rest after)
  | case5 c text hquote hslash ih =>
    obtain ⟨⟨hquotes, hslashes⟩, hafter⟩ := ih (by
      simpa [inside?_cons resolved _ hquote hslash] using hread)
    simp [Ne.symm hquote, Ne.symm hslash, hquotes, hslashes, hafter]

/-- In both ways, a text before a quote is read only if it fits. -/
theorem fits_of_inside? {quoting : Quoting} {text rest after : List Char}
    (hread : quoting.inside? (text ++ '"' :: rest) = some (text, after)) :
    quoting.Fits text ∧ after = rest :=
  match quoting with
  | kept => fits_of_kept hread
  | resolved => fits_of_resolved hread

end Quoting

/-! ### Fields as they are written -/

/-- A parameter that is written, between quotes or not. -/
structure Field where
  name : String
  value : String
  isQuoted : Bool := true

namespace Field

/-- The value as it is written. -/
def shown (field : Field) : List Char :=
  if field.isQuoted then '"' :: (field.value.toList ++ ['"']) else field.value.toList

/-- The parameter as it is written. -/
def chars (field : Field) : List Char := field.name.toList ++ '=' :: field.shown

/-- The parameter that is meant. -/
def param (field : Field) : String × String := (field.name, field.value)

/-- Whether the name, and a value without quotes, are tokens. -/
structure IsPlain (field : Field) : Prop where
  name : Sip.IsToken field.name.toList
  value : field.isQuoted = false → Sip.IsToken field.value.toList

/-- Whether a value between quotes fits there. -/
def Fits (quoting : Quoting) (field : Field) : Prop :=
  field.isQuoted = true → quoting.Fits field.value.toList

section

variable {quoting : Quoting} {name value : String}

theorem isPlain_quoted (hname : Sip.IsToken name.toList) : (⟨name, value, true⟩ : Field).IsPlain :=
  ⟨hname, fun hbare => by cases hbare⟩

theorem isPlain_bare (hname : Sip.IsToken name.toList) (hvalue : Sip.IsToken value.toList) :
    (⟨name, value, false⟩ : Field).IsPlain :=
  ⟨hname, fun _ => hvalue⟩

@[simp] theorem fits_quoted : (⟨name, value, true⟩ : Field).Fits quoting ↔
    quoting.Fits value.toList :=
  ⟨fun hfits => hfits rfl, fun hfits _ => hfits⟩

@[simp] theorem fits_bare : (⟨name, value, false⟩ : Field).Fits quoting :=
  fun hquoted => by cases hquoted

end

variable {quoting : Quoting} {field : Field} {rest after : List Char}

/-- No white space stands ahead of a value. -/
theorem blanks?_shown (hplain : field.IsPlain) : Sip.blanks? (field.shown ++ rest) = none := by
  unfold shown
  split
  · exact Sip.blanks?_cons (by decide) (by decide) (by decide)
  · next hbare => exact Sip.blanks?_token (hplain.value (by simpa using hbare))

/-- The name of a parameter is read, and then its value. -/
theorem param?_chars (hplain : field.IsPlain) :
    quoting.param? (field.chars ++ rest) =
      (quoting.value? (field.shown ++ rest)).map fun (value, after) =>
        ((field.name, value), after) := by
  have hname : Sip.token? (field.name.toList ++ '=' :: (field.shown ++ rest)) =
      some (field.name.toList, '=' :: (field.shown ++ rest)) :=
    Sip.token?_append hplain.name (by simp; decide)
  have hequals : Sip.separator? '=' ('=' :: (field.shown ++ rest)) = some (field.shown ++ rest) :=
    Sip.separator?_cons (Sip.blanks?_cons (by decide) (by decide) (by decide))
      (blanks?_shown hplain)
  unfold Quoting.param? chars
  rw [List.append_assoc, List.cons_append, hname]
  simp only [Option.bind_eq_bind, Option.bind_some, hequals, String.ofList_toList]
  cases quoting.value? (field.shown ++ rest) <;> rfl

/-- A value without quotes is read up to the next parameter. -/
theorem value?_bare (hplain : field.IsPlain) (hbare : field.isQuoted = false)
    (hrest : ∀ c ∈ rest.head?, c = ',') :
    quoting.value? (field.value.toList ++ rest) = some (field.value, rest) := by
  have hread : Sip.token? (field.value.toList ++ rest) = some (field.value.toList, rest) :=
    Sip.token?_append (hplain.value hbare) fun c hc => by
      rw [hrest c hc]
      decide
  obtain ⟨hne, htoken⟩ := hplain.value hbare
  obtain ⟨c, value, hvalue⟩ := List.exists_cons_of_ne_nil hne
  have hquote : c ≠ '"' := 
    Sip.ne_of_isTokenChar (List.all_eq_true.mp htoken c (by simp [hvalue])) (by decide)
  unfold Quoting.value?
  split
  · next heq =>
    rw [hvalue] at heq
    exact absurd (List.cons.inj heq).1 hquote
  · rw [hread]
    simp

/-- A value that fits is read up to the next parameter. -/
theorem value?_of_fits (hplain : field.IsPlain) (hfits : field.Fits quoting)
    (hrest : ∀ c ∈ rest.head?, c = ',') :
    quoting.value? (field.shown ++ rest) = some (field.value, rest) := by
  unfold shown
  split
  · next hquoted =>
    simp [Quoting.value?, Quoting.inside?_of_fits (hfits hquoted)]
  · next hbare => exact value?_bare hplain (by simpa using hbare) hrest

/-- It is read as another one if it does not fit. -/
theorem fits_of_value? (hplain : field.IsPlain) (hrest : ∀ c ∈ rest.head?, c = ',')
    (hread : quoting.value? (field.shown ++ rest) = some (field.value, after)) :
    field.Fits quoting ∧ after = rest := by
  unfold shown at hread
  split at hread
  · next hquoted =>
    obtain ⟨inside, hinside, hvalue⟩ : ∃ inside,
        quoting.inside? (field.value.toList ++ '"' :: rest) = some (inside, after) ∧
          String.ofList inside = field.value := by
      simpa [Quoting.value?] using hread
    rw [← hvalue, String.toList_ofList] at hinside
    obtain ⟨hfits, hafter⟩ := Quoting.fits_of_inside? hinside
    refine ⟨fun _ => ?_, hafter⟩
    rwa [← hvalue, String.toList_ofList]
  · next hbare =>
    rw [value?_bare hplain (by simpa using hbare) hrest] at hread
    refine ⟨fun hquoted => absurd hquoted hbare, ?_⟩
    simpa [eq_comm] using hread

/-! ### Rows of fields -/

/-- Parameters as they are written one after another, each behind a comma. -/
def row (fields : List Field) : List Char := fields.flatMap fun field => ',' :: field.chars

theorem head?_row (fields : List Field) : ∀ c ∈ (row fields).head?, c = ',' := by
  cases fields with
  | nil => simp [row]
  | cons field fields => simp [row, eq_comm]

/-- A parameter behind a comma. -/
def further? (quoting : Quoting) (text : List Char) : Option ((String × String) × List Char) :=
  (Sip.separator? ',' text).bind quoting.param?

/-- The first parameter of a row is read behind its comma. -/
theorem further?_row (hplain : field.IsPlain) (fields : List Field) :
    further? quoting (row (field :: fields)) = quoting.param? (field.chars ++ row fields) := by
  have hsolid : Sip.blanks? (field.chars ++ row fields) = none := by
    rw [chars, List.append_assoc]
    exact Sip.blanks?_token hplain.name
  have hcomma : Sip.separator? ',' (row (field :: fields)) = some (field.chars ++ row fields) :=
    Sip.separator?_cons (Sip.blanks?_cons (by decide) (by decide) (by decide)) hsolid
  rw [further?, hcomma, Option.bind_some]

/-- Every parameter takes a character at least. -/
theorem length_le_row (fields : List Field) : fields.length ≤ (row fields).length := by
  induction fields with
  | nil => exact Nat.le_refl 0
  | cons field fields ih =>
    have hrow : row (field :: fields) = ',' :: (field.chars ++ row fields) := rfl
    rw [hrow, List.length_cons, List.length_cons, List.length_append]
    omega

/-- Where names are different, no other parameter has the name of the first one. -/
theorem beq_name_eq_false {fields : List Field} {field' : Field}
    (hnames : field.name ∉ fields.map name) (hfield' : field' ∈ fields) :
    (field'.name == field.name) = false := by
  rw [beq_eq_false_iff_ne]
  exact fun hsame => hnames (hsame ▸ List.mem_map_of_mem hfield')

/-- Parameters that fit are all read. -/
theorem readMany_of_fits {fields : List Field} {count : Nat} (hcount : fields.length ≤ count)
    (hplain : ∀ field ∈ fields, field.IsPlain) (hfits : ∀ field ∈ fields, field.Fits quoting) :
    Sip.readMany (further? quoting) count (row fields) = (fields.map param, []) := by
  induction fields generalizing count with
  | nil => cases count <;> rfl
  | cons field fields ih =>
    obtain ⟨count, rfl⟩ := Nat.exists_eq_add_one_of_ne_zero (Nat.ne_zero_of_lt hcount)
    simp only [List.forall_mem_cons] at hplain hfits
    have hread := value?_of_fits hplain.1 hfits.1 (head?_row fields)
    rw [Sip.readMany, further?_row hplain.1, param?_chars hplain.1, hread, Option.map_some]
    simp only [ih (Nat.le_of_succ_le_succ hcount) hplain.2 hfits.2, List.map_cons, param]

/-- If those that might not fit are found as they were meant among the ones that are read, then all
of them fit: the first one that does not would be read as another one, or as none. -/
theorem fits_of_readMany {fields : List Field} (count : Nat) {params : List (String × String)}
    (hplain : ∀ field ∈ fields, field.IsPlain) (hnames : (fields.map name).Nodup)
    (hread : (Sip.readMany (further? quoting) count (row fields)).1 = params)
    (hmeant : ∀ field ∈ fields, field.Fits quoting ∨ params.lookup field.name = some field.value) :
    ∀ field ∈ fields, field.Fits quoting := by
  induction fields generalizing count params with
  | nil => simp
  | cons field fields ih =>
    simp only [List.forall_mem_cons] at hplain
    rw [List.map_cons, List.nodup_cons] at hnames
    have hstopped : params = [] → ∀ field' ∈ field :: fields, field'.Fits quoting := by
      rintro rfl field' hfield'
      exact (hmeant field' hfield').resolve_right (by simp)
    cases count with
    | zero => exact hstopped hread.symm
    | succ count =>
      rw [Sip.readMany, further?_row hplain.1, param?_chars hplain.1] at hread
      cases hvalue : quoting.value? (field.shown ++ row fields) with
      | none =>
        rw [hvalue] at hread
        exact hstopped hread.symm
      | some found =>
        obtain ⟨value, rest⟩ := found
        rw [hvalue, Option.map_some] at hread
        obtain rfl : params =
            (field.name, value) :: (Sip.readMany (further? quoting) count rest).1 := hread.symm
        have hfield : field.Fits quoting ∧ rest = row fields := by
          rcases hmeant field (by simp) with hfits | hlookup
          · rw [value?_of_fits hplain.1 hfits (head?_row fields)] at hvalue
            cases hvalue
            exact ⟨hfits, rfl⟩
          · have hsame : value = field.value := by simpa using hlookup
            rw [hsame] at hvalue
            exact fits_of_value? hplain.1 (head?_row fields) hvalue
        obtain ⟨hfits, rfl⟩ := hfield
        refine List.forall_mem_cons.mpr ⟨hfits, ih count hplain.2 hnames.2 rfl ?_⟩
        intro field' hfield'
        refine (hmeant field' (by simp [hfield'])).imp_right fun hlookup => ?_
        rwa [List.lookup_cons, beq_name_eq_false hnames.1 hfield'] at hlookup

variable {fields : List Field}

/-- Parameters that fit are read as they were meant. -/
theorem readList?_of_fits (hplain : ∀ field' ∈ field :: fields, field'.IsPlain)
    (hfits : ∀ field' ∈ field :: fields, field'.Fits quoting) :
    Sip.Challenge.readList? quoting.param? (field.chars ++ row fields) =
      some ((field :: fields).map param, []) := by
  simp only [List.forall_mem_cons] at hplain hfits
  have hmore : Sip.readMany (fun text => (Sip.separator? ',' text).bind quoting.param?)
      (row fields).length (row fields) = (fields.map param, []) :=
    readMany_of_fits (length_le_row fields) hplain.2 hfits.2
  unfold Sip.Challenge.readList?
  rw [param?_chars hplain.1, value?_of_fits hplain.1 hfits.1 (head?_row fields)]
  simp only [Option.map_some, Option.bind_eq_bind, Option.bind_some, hmore]
  rfl

/-- Parameters are read as they were meant only if they fit. -/
theorem fits_of_readList? {params : List (String × String)}
    (hplain : ∀ field' ∈ field :: fields, field'.IsPlain)
    (hnames : ((field :: fields).map name).Nodup)
    (hread : Sip.Challenge.readList? quoting.param? (field.chars ++ row fields) =
      some (params, after))
    (hmeant : ∀ field' ∈ field :: fields,
      field'.Fits quoting ∨ params.lookup field'.name = some field'.value) :
    ∀ field' ∈ field :: fields, field'.Fits quoting := by
  unfold Sip.Challenge.readList? at hread
  cases hfirst : quoting.param? (field.chars ++ row fields) with
  | none =>
    rw [hfirst] at hread
    cases hread
  | some found =>
    obtain ⟨first, rest⟩ := found
    rw [hfirst] at hread
    cases hread
    refine fits_of_readMany (rest.length + 1) hplain hnames ?_ hmeant
    rw [Sip.readMany, further?_row (hplain field (by simp)), hfirst]
    rfl

/-- A parameter is found under its name if no other one has it. -/
theorem lookup_param (hnames : (fields.map name).Nodup) (hfield : field ∈ fields) :
    (fields.map param).lookup field.name = some field.value := by
  induction fields with
  | nil => cases hfield
  | cons first fields ih =>
    rw [List.map_cons, List.nodup_cons] at hnames
    rcases List.mem_cons.mp hfield with rfl | hfield
    · simp [param]
    · rw [List.map_cons, param, List.lookup_cons, beq_name_eq_false hnames.1 hfield]
      exact ih hnames.2 hfield

/-- None is found under another name. -/
theorem lookup_absent {name : String} (hother : ∀ field ∈ fields, field.name ≠ name) :
    (fields.map param).lookup name = none := by
  rw [List.lookup_eq_none_iff, List.forall_mem_map]
  exact fun field hfield => bne_iff_ne.mpr (hother field hfield).symm

end Field

end ImsClient.Digest
