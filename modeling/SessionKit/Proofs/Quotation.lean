import SessionKit.Toml.Writer

/-!
# Strings in quotes

A string is read back from whichever of its four forms it is written in, as long as no further
quote follows.
-/

namespace SessionKit.Toml

variable {c : Char} {cs s rest rest' : List Char}

/-! ## Characters -/

theorem isText_of_not_isControl (plain : isControl c = false) (other : c ≠ '\n') :
    isText c = true := by
  simp only [isControl, Bool.or_eq_false_iff, Bool.and_eq_false_iff,
    decide_eq_false_iff_not] at plain
  by_cases tab : c = '\t'
  · simp [isText, tab]
  · have above : ' ' ≤ c := by simpa [tab, other] using plain.1
    simp [isText, above, plain.2]

theorem toNat_lt_of_isControl (control : isControl c = true) : c.toNat < 128 := by
  simp only [isControl, Bool.or_eq_true, Bool.and_eq_true, decide_eq_true_eq] at control
  obtain ⟨⟨below, -⟩, -⟩ | rfl := control
  · have below : c.toNat < 32 := below
    omega
  · decide

/-- Two digits are enough for a control. -/
theorem codePoint?_of_isControl (control : isControl c = true) :
    codePoint? ['0', '0', upperHexDigit (c.toNat / 16), upperHexDigit (c.toNat % 16)] = some c := by
  have read : ∀ n < 128, codePoint? ['0', '0', upperHexDigit (n / 16), upperHexDigit (n % 16)] =
      some (Char.ofNat n) := by decide
  simpa using read c.toNat (toNat_lt_of_isControl control)

/-- A character is written as it is, as a letter behind a backslash, or as its code point. -/
theorem escaped_cases (c : Char) (other : c ≠ '\n') :
    (escaped c = [c] ∧ isText c = true ∧ isControl c = false ∧ c ≠ '\\') ∨
      (∃ letter, escaped c = ['\\', letter] ∧ unescape? letter = some c) ∨
      ∃ a b, escaped c = ['\\', 'u', '0', '0', a, b] ∧ codePoint? ['0', '0', a, b] = some c := by
  unfold escaped
  split
  next same =>
    subst same
    exact .inr (.inl ⟨'b', rfl, rfl⟩)
  split
  next same =>
    subst same
    exact .inr (.inl ⟨'t', rfl, rfl⟩)
  split
  next same =>
    subst same
    exact .inr (.inl ⟨'f', rfl, rfl⟩)
  split
  next same =>
    subst same
    exact .inr (.inl ⟨'r', rfl, rfl⟩)
  split
  next same =>
    subst same
    exact .inr (.inl ⟨'\\', rfl, rfl⟩)
  next backslash =>
    split
    next control => exact .inr (.inr ⟨_, _, rfl, codePoint?_of_isControl control⟩)
    next plain =>
      have plain : isControl c = false := Bool.eq_false_iff.mpr plain
      exact .inl ⟨rfl, isText_of_not_isControl plain other, plain, backslash⟩

/-! ## On one line -/

theorem readBasic_escaped (quote : c ≠ '"') (newline : c ≠ '\n')
    (read : readBasic rest = some (s, rest')) :
    readBasic (escaped c ++ rest) = some (c :: s, rest') := by
  obtain ⟨same, text, -, backslash⟩ | ⟨letter, same, unescaped⟩ | ⟨a, b, same, point⟩ :=
    escaped_cases c newline
  · simp [same, readBasic, backslash, text, read]
  · rw [same]
    unfold unescape? at unescaped
    split at unescaped <;> cases unescaped <;> simp [readBasic, unescape?, read]
  · simp [same, readBasic, point, read]

theorem readBasic_basicText (cs rest : List Char) :
    readBasic (basicText cs ++ '"' :: rest) = some (cs, rest) := by
  induction cs using basicText.induct with
  | case1 => simp [basicText, readBasic]
  | case2 cs ih => simp [basicText, readBasic, unescape?, ih]
  | case3 cs ih => simp [basicText, readBasic, unescape?, ih]
  | case4 c cs quote newline ih =>
    simp only [basicText, List.append_assoc]
    exact readBasic_escaped quote newline ih

theorem readLiteral_append (plain : ∀ c ∈ cs, isText c = true ∧ c ≠ '\'') (rest : List Char) :
    readLiteral (cs ++ '\'' :: rest) = some (cs, rest) := by
  induction cs with
  | nil => simp [readLiteral]
  | cons c cs ih =>
    have here := plain c (by simp)
    have later := ih fun c mem => plain c (by simp [mem])
    simp [readLiteral, here, later]

/-! ## On several lines -/

/-- Behind a quote, at most one more stands before another character or the end. -/
inductive Breaks (q : Char) : List Char → Prop where
  | nil : Breaks q []
  | one : Breaks q [q]
  | other (c : Char) (cs : List Char) (h : c ≠ q) : Breaks q (c :: cs)
  | oneMore (c : Char) (cs : List Char) (h : c ≠ q) : Breaks q (q :: c :: cs)

theorem breaks_of_hasTriple {q : Char} {run : Nat} (h : hasTriple q run (q :: cs) = false) :
    Breaks q cs := by
  simp only [hasTriple, if_true, Bool.or_eq_false_iff] at h
  match cs, h.2 with
  | [], _ => exact .nil
  | c :: cs, h =>
    by_cases same : c = q
    · subst same
      simp only [hasTriple, if_true, Bool.or_eq_false_iff] at h
      -- There are two quotes by now, so that what follows is no third one.
      match cs, h.2 with
      | [], _ => exact .one
      | d :: cs, h =>
        by_cases same : d = c
        · simp [hasTriple, same] at h
        · exact .oneMore d cs same
    · exact .other c cs same

/-- A quote that does not end the string is part of it. -/
theorem readLongLiteral_quote (breaks : Breaks '\'' cs) (free : ∀ more, rest ≠ '\'' :: more)
    (read : readLongLiteral (cs ++ '\'' :: '\'' :: '\'' :: rest) = some (s, rest)) :
    readLongLiteral ('\'' :: cs ++ '\'' :: '\'' :: '\'' :: rest) = some ('\'' :: s, rest) := by
  have text : isText '\'' = true := by decide
  cases breaks with
  | nil =>
    have none : [] = s := by simpa [readLongLiteral, free] using read
    simp [readLongLiteral, ← none]
  | one =>
    have one : ['\''] = s := by simpa [readLongLiteral, free] using read
    simp [readLongLiteral, ← one]
  -- There are fewer than three quotes here, so that this one is read alone.
  | other c cs h | oneMore c cs h =>
    simp only [List.cons_append] at read ⊢
    rw [readLongLiteral]
    · simp [text, read]
    all_goals simp [h]

theorem readLongLiteral_append {run : Nat} (plain : ∀ c ∈ cs, isControl c = false)
    (triple : hasTriple '\'' run cs = false) (free : ∀ more, rest ≠ '\'' :: more) :
    readLongLiteral (cs ++ '\'' :: '\'' :: '\'' :: rest) = some (cs, rest) := by
  induction cs generalizing run with
  | nil => simp [readLongLiteral, free]
  | cons c cs ih =>
    have plain' : ∀ c ∈ cs, isControl c = false := fun c mem => plain c (by simp [mem])
    by_cases quote : c = '\''
    · subst quote
      have breaks := breaks_of_hasTriple triple
      simp only [hasTriple, if_true, Bool.or_eq_false_iff] at triple
      exact readLongLiteral_quote breaks free (ih plain' triple.2)
    · simp only [hasTriple, quote, if_false] at triple
      have text : c = '\n' ∨ isText c = true := by
        by_cases newline : c = '\n'
        · exact .inl newline
        · exact .inr (isText_of_not_isControl (plain c (by simp)) newline)
      have return' : c ≠ '\r' := fun same => by simp [same, isControl] at plain
      simp [readLongLiteral, text, ih plain' triple, quote, return']

theorem readLongBasic_quote (breaks : Breaks '"' cs) (free : ∀ more, rest ≠ '"' :: more)
    (read : readLongBasic false (cs ++ '"' :: '"' :: '"' :: rest) = some (s, rest)) :
    readLongBasic false ('"' :: cs ++ '"' :: '"' :: '"' :: rest) = some ('"' :: s, rest) := by
  have text : isText '"' = true := by decide
  cases breaks with
  | nil =>
    have none : [] = s := by simpa [readLongBasic, free] using read
    simp [readLongBasic, ← none]
  | one =>
    have one : ['"'] = s := by simpa [readLongBasic, free] using read
    simp [readLongBasic, ← one]
  | other c cs h | oneMore c cs h =>
    simp only [List.cons_append] at read ⊢
    rw [readLongBasic]
    · simp [text, read]
    all_goals simp [h]

theorem readLongBasic_escaped (quote : c ≠ '"') (newline : c ≠ '\n')
    (read : readLongBasic false rest = some (s, rest')) :
    readLongBasic false (escaped c ++ rest) = some (c :: s, rest') := by
  obtain ⟨same, text, plain, backslash⟩ | ⟨letter, same, unescaped⟩ | ⟨a, b, same, point⟩ :=
    escaped_cases c newline
  · have return' : c ≠ '\r' := fun same => by simp [same, isControl] at plain
    simp [same, readLongBasic, quote, return', backslash, text, read]
  · rw [same]
    unfold unescape? at unescaped
    split at unescaped <;> cases unescaped <;> simp [readLongBasic, unescape?, read]
  · simp [same, readLongBasic, point, read]

/-- What is written for a character never looks like a quote or like a line end. -/
theorem escaped_eq_cons (quote : c ≠ '"') (newline : c ≠ '\n') :
    ∃ d more, escaped c = d :: more ∧ d ≠ '"' ∧ d ≠ '\n' ∧ d ≠ '\r' := by
  obtain ⟨same, -, plain, -⟩ | ⟨letter, same, -⟩ | ⟨a, b, same, -⟩ := escaped_cases c newline
  · have return' : c ≠ '\r' := fun same => by simp [same, isControl] at plain
    exact ⟨_, _, same, quote, newline, return'⟩
  · exact ⟨_, _, same, by decide⟩
  · exact ⟨_, _, same, by decide⟩

theorem longBasicText_eq_cons {run : Nat} (h : c ≠ '"' ∨ run = 2) (cs : List Char) :
    ∃ d more, longBasicText run (c :: cs) = d :: more ∧ d ≠ '"' := by
  by_cases quote : c = '"'
  · have full : run = 2 := h.resolve_left (not_not_intro quote)
    exact ⟨'\\', _, by rw [quote, longBasicText, if_pos full], by decide⟩
  · by_cases newline : c = '\n'
    · exact ⟨'\n', _, by rw [newline, longBasicText], by decide⟩
    · obtain ⟨d, more, same, other, -⟩ := escaped_eq_cons quote newline
      refine ⟨d, more ++ longBasicText 0 cs, ?_, other⟩
      simp [longBasicText, same]

/-- Every third quote of a run is escaped. -/
theorem breaks_longBasicText {run : Nat} (counted : run = 1 ∨ run = 2) (cs : List Char) :
    Breaks '"' (longBasicText run cs) := by
  cases cs with
  | nil => exact .nil
  | cons c cs =>
    by_cases h : c ≠ '"' ∨ run = 2
    · obtain ⟨d, more, same, other⟩ := longBasicText_eq_cons h cs
      exact same ▸ .other d more other
    -- The one other case is that of a second quote, behind which comes no third one as it is.
    · obtain ⟨rfl, rfl⟩ : c = '"' ∧ run = 1 := by grind
      simp only [longBasicText]
      cases cs with
      | nil => exact .one
      | cons c cs =>
        obtain ⟨d, more, same, other⟩ := longBasicText_eq_cons (.inr rfl) cs
        exact same ▸ .oneMore d more other

theorem readLongBasic_longBasicText {run : Nat} (counted : run ≤ 2) (cs : List Char)
    (free : ∀ more, rest ≠ '"' :: more) :
    readLongBasic false (longBasicText run cs ++ '"' :: '"' :: '"' :: rest) = some (cs, rest) := by
  -- `run` quotes have just been read as they are; the reader never sees a third one before the end.
  induction run, cs using longBasicText.induct with
  | case1 run => simp [longBasicText, readLongBasic, free]
  | case2 cs ih => simp [longBasicText, readLongBasic, unescape?, ih]
  | case3 run cs full ih =>
    rw [longBasicText, if_neg full]
    exact readLongBasic_quote (breaks_longBasicText (by omega) cs) free (ih (by omega))
  | case4 run cs ih => simp [longBasicText, readLongBasic, ih]
  | case5 run c cs quote newline ih =>
    simp only [longBasicText, List.append_assoc]
    exact readLongBasic_escaped quote newline (ih (by omega))

/-! ## The four forms -/

theorem plain_of_quoting_literal (form : quoting cs = .literal) :
    ∀ c ∈ cs, isText c = true ∧ c ≠ '\'' := by
  unfold quoting at form
  grind [isText_of_not_isControl]

theorem plain_of_quoting_longLiteral (form : quoting cs = .longLiteral) :
    (∀ c ∈ cs, isControl c = false) ∧ hasTriple '\'' 0 cs = false := by
  unfold quoting at form
  grind

/-- The text begins with no line end. -/
def Flush (cs : List Char) : Prop := ∀ c ∈ cs.head?, c ≠ '\n' ∧ c ≠ '\r'

theorem skipNewline_of_flush (flush : Flush cs) : skipNewline cs = cs := by
  unfold skipNewline newline?
  split
  next => exact absurd rfl (flush '\n' rfl).1
  next => exact absurd rfl (flush '\r' rfl).2
  next => rfl

/-- The line end behind the opening quotes is all that is skipped there. -/
theorem skipNewline_opening (flush : '\n' ∉ cs → Flush rest) :
    skipNewline (opening cs ++ rest) = rest := by
  by_cases newline : '\n' ∈ cs
  · simp [opening, newline, skipNewline, newline?]
  · simp [opening, newline, skipNewline_of_flush (flush newline)]

theorem flush_longBasicText (newline : '\n' ∉ cs) (rest : List Char) :
    Flush (longBasicText 0 cs ++ '"' :: rest) := by
  cases cs with
  | nil => simp [longBasicText, Flush]
  | cons c cs =>
    by_cases quote : c = '"'
    · simp [longBasicText, quote, Flush]
    · have other : c ≠ '\n' := fun same => newline (by simp [same])
      obtain ⟨d, more, same, -, flush⟩ := escaped_eq_cons quote other
      simp [longBasicText, same, Flush, flush]

theorem flush_of_plain (plain : ∀ c ∈ cs, isControl c = false) (newline : '\n' ∉ cs)
    (rest : List Char) : Flush (cs ++ '\'' :: rest) := by
  cases cs with
  | nil => simp [Flush]
  | cons c cs =>
    have other : c ≠ '\n' := fun same => newline (by simp [same])
    have return' : c ≠ '\r' := fun same => by simp [same, isControl] at plain
    simp [Flush, other, return']

theorem readString_basic (free : ∀ cs', cs ≠ '"' :: '"' :: cs') :
    readString ('"' :: cs) = readBasic cs := by
  simp [readString]

theorem readString_literal (free : ∀ cs', cs ≠ '\'' :: '\'' :: cs') :
    readString ('\'' :: cs) = readLiteral cs := by
  simp [readString]

/-- Only an empty text has two quotes in front when it is written on one line. -/
theorem basicText_append_ne (free : ∀ more, rest ≠ '"' :: more) (cs cs' : List Char) :
    basicText cs ++ '"' :: rest ≠ '"' :: '"' :: cs' := by
  cases cs with
  | nil => simp [basicText, free]
  | cons c cs =>
    by_cases quote : c = '"'
    · simp [quote, basicText]
    · by_cases newline : c = '\n'
      · simp [newline, basicText]
      · obtain ⟨d, more, same, other, -⟩ := escaped_eq_cons quote newline
        simp [basicText, same, other]

theorem append_ne_of_plain (plain : ∀ c ∈ cs, isText c = true ∧ c ≠ '\'')
    (free : ∀ more, rest ≠ '\'' :: more) (cs' : List Char) :
    cs ++ '\'' :: rest ≠ '\'' :: '\'' :: cs' := by
  cases cs with
  | nil => simp [free]
  | cons c cs => simp [plain c]

/-- The two marks that a string may begin with. -/
def isQuote (c : Char) : Bool := c = '"' || c = '\''

/-- A string is read back from what is written for it. -/
theorem readString_stringText (cs : List Char) (free : ∀ c ∈ rest.head?, isQuote c = false) :
    readString (stringText cs ++ rest) = some (cs, rest) := by
  have double : ∀ more, rest ≠ '"' :: more := fun more same => by simp [same, isQuote] at free
  have single : ∀ more, rest ≠ '\'' :: more := fun more same => by simp [same, isQuote] at free
  unfold stringText
  cases form : quoting cs with
  | basic =>
    simp only [List.append_assoc, List.cons_append, List.nil_append]
    rw [readString_basic (basicText_append_ne double cs)]
    exact readBasic_basicText cs rest
  | literal =>
    have plain := plain_of_quoting_literal form
    simp only [List.append_assoc, List.cons_append, List.nil_append]
    rw [readString_literal (append_ne_of_plain plain single)]
    exact readLiteral_append plain rest
  | longBasic =>
    simp only [List.append_assoc, List.cons_append, List.nil_append, readString]
    rw [skipNewline_opening fun newline => flush_longBasicText newline _]
    exact readLongBasic_longBasicText (by decide) cs double
  | longLiteral =>
    obtain ⟨plain, triple⟩ := plain_of_quoting_longLiteral form
    simp only [List.append_assoc, List.cons_append, List.nil_append, readString]
    rw [skipNewline_opening fun newline => flush_of_plain plain newline _]
    exact readLongLiteral_append plain triple single

/-- No form holds both runs of quotes as they are, and the third quote of one is escaped. -/
example : stringText "'''\n\"\"\"".toList = "\"\"\"\n'''\n\"\"\\\"\"\"\"".toList := by
  decide

end SessionKit.Toml
