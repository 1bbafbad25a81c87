import SessionKit.Json
import Mathlib.Data.List.Basic

/-!
# JSON both ways

A string is read back from its text whatever characters it has, and an object from its compact text,
with its members in the order of their names, as soon as the values of its members are.
-/

namespace SessionKit.Json

variable {c : Char} {cs rest : List Char} {depth fuel n : Nat} {j : Json}
  {ms : List (String × Json)}

/-! ## Strings -/

/-- A character is written as it is, as a letter behind a backslash, or as its code unit. -/
theorem escaped_cases (c : Char) :
    (escaped c = [c] ∧ c ≠ '"' ∧ c ≠ '\\' ∧ 32 ≤ c.toNat) ∨
      (∃ letter, escaped c = ['\\', letter] ∧ letter ≠ 'u' ∧ unescape? letter = some c) ∨
      ∃ w x y z, escaped c = ['\\', 'u', w, x, y, z] ∧ unitValue? w x y z = some c.toNat ∧
        c.toNat < 32 := by
  have units : ∀ n < 32, unitValue? (Bytes.hexDigit (n / 4096)) (Bytes.hexDigit (n / 256 % 16))
      (Bytes.hexDigit (n / 16 % 16)) (Bytes.hexDigit (n % 16)) = some n := by decide
  unfold escaped
  split
  next same =>
    subst same
    exact .inr (.inl ⟨'"', rfl, by decide, rfl⟩)
  split
  next same =>
    subst same
    exact .inr (.inl ⟨'\\', rfl, by decide, rfl⟩)
  split
  next same =>
    subst same
    exact .inr (.inl ⟨'n', rfl, by decide, rfl⟩)
  split
  next same =>
    subst same
    exact .inr (.inl ⟨'r', rfl, by decide, rfl⟩)
  split
  next same =>
    subst same
    exact .inr (.inl ⟨'t', rfl, by decide, rfl⟩)
  split
  next same =>
    subst same
    exact .inr (.inl ⟨'b', rfl, by decide, rfl⟩)
  split
  next same =>
    subst same
    exact .inr (.inl ⟨'f', rfl, by decide, rfl⟩)
  split
  next control => exact .inr (.inr ⟨_, _, _, _, rfl, units _ control, control⟩)
  next quote backslash _ _ _ _ _ plain => exact .inl ⟨rfl, quote, backslash, Nat.not_lt.mp plain⟩

/-- What has been read, with a character in front. -/
def before (c : Char) (read : Option (List Char × List Char)) : Option (List Char × List Char) :=
  read.map fun (s, rest) => (c :: s, rest)

theorem bind_eq_before (c : Char) (read : Option (List Char × List Char)) :
    (read.bind fun r => some (c :: r.1, r.2)) = before c read := by
  cases read <;> rfl

/-- A unit outside of the surrogates stands for itself, also in front of another unit. -/
theorem readString_unit {w x y z : Char} (unit : unitValue? w x y z = some n) (low : n < 0xd800)
    (rest : List Char) :
    readString ('\\' :: 'u' :: w :: x :: y :: z :: rest) =
      before (Char.ofNat n) (readString rest) := by
  have high : isHighSurrogate n = false := by
    simp [isHighSurrogate]
    omega
  have low : isLowSurrogate n = false := by
    simp [isLowSurrogate]
    omega
  rw [readString.eq_def]
  split
  next same => simp at same
  next same =>
    simp only [List.cons.injEq, true_and] at same
    obtain ⟨rfl, rfl, rfl, rfl, rfl⟩ := same
    simp [unit, high, low, bind_eq_before]
  next same =>
    simp only [List.cons.injEq, true_and] at same
    obtain ⟨rfl, rfl, rfl, rfl, rfl⟩ := same
    simp [unit, high, low, bind_eq_before]
  next four same =>
    simp only [List.cons.injEq, true_and] at same
    exact (four _ _ _ _ _ same.1.symm same.2.symm).elim
  next four _ same =>
    obtain ⟨backslash, rest⟩ := List.cons.inj same
    exact (four _ _ _ _ _ backslash.symm rest.symm).elim
  next same => cases same

theorem readString_letter {letter : Char} (other : letter ≠ 'u')
    (unescaped : unescape? letter = some c) :
    readString ('\\' :: letter :: rest) = before c (readString rest) := by
  simp [readString, other, unescaped, bind_eq_before]

theorem readString_plain (quote : c ≠ '"') (backslash : c ≠ '\\') (plain : 32 ≤ c.toNat) :
    readString (c :: rest) = before c (readString rest) := by
  simp [readString, backslash, Nat.not_lt.mpr plain, bind_eq_before]

theorem readString_escaped (c : Char) (rest : List Char) :
    readString (escaped c ++ rest) = before c (readString rest) := by
  obtain ⟨same, quote, backslash, plain⟩ | ⟨letter, same, other, unescaped⟩ |
    ⟨w, x, y, z, same, unit, control⟩ := escaped_cases c
  · rw [same]
    exact readString_plain quote backslash plain
  · rw [same]
    exact readString_letter other unescaped
  · have low : c.toNat < 0xd800 := by omega
    rw [same]
    have read := readString_unit unit low rest
    rwa [Char.ofNat_toNat] at read

theorem readString_flatMap (cs rest : List Char) :
    readString (cs.flatMap escaped ++ '"' :: rest) = some (cs, rest) := by
  induction cs with
  | nil => simp [readString]
  | cons c cs ih => simp [readString_escaped, ih, before]

/-! ## Values -/

/-- The value is read back from its text, whatever follows, with the members of its objects in the
order of their names. -/
structure Reads (depth : Nat) (j : Json) : Prop where
  /-- No blank is taken for the beginning of the value. -/
  start : ∃ c cs, j.text = c :: cs ∧ isBlank c = false
  read (rest : List Char) : readValue depth (j.text ++ rest) = some (j.sorted, rest)

theorem skipBlanks_cons (other : isBlank c = false) (cs : List Char) :
    skipBlanks (c :: cs) = c :: cs :=
  List.dropWhile_cons_of_neg (by simp [other])

theorem Reads.skipBlanks (reads : Reads depth j) (rest : List Char) :
    skipBlanks (j.text ++ rest) = j.text ++ rest := by
  obtain ⟨c, cs, same, other⟩ := reads.start
  rw [same]
  exact skipBlanks_cons other _

theorem reads_string (depth : Nat) (s : String) : Reads depth (string s) where
  start := ⟨'"', _, rfl, by decide⟩
  read rest := by
    have read := readString_flatMap s.toList rest
    simp [text, atomText, stringText, readValue, read, sorted]

theorem readMembers_last (reads : Reads depth j) (name : String) (rest : List Char) :
    readMembers (readValue depth) (fuel + 1)
        (stringText name ++ ':' :: (j.text ++ '\x7d' :: rest)) =
      some ([(name, j.sorted)], rest) := by
  have key (rest : List Char) := readString_flatMap name.toList rest
  simp [stringText, readMembers, skipBlanks_cons, isBlank, key, reads.skipBlanks, reads.read]

theorem readMembers_more (reads : Reads depth j) (name : String)
    (more : readMembers (readValue depth) fuel cs = some (ms, rest)) :
    readMembers (readValue depth) (fuel + 1) (stringText name ++ ':' :: (j.text ++ ',' :: cs)) =
      some ((name, j.sorted) :: ms, rest) := by
  have key (rest : List Char) := readString_flatMap name.toList rest
  simp [stringText, readMembers, skipBlanks_cons, isBlank, key, reads.skipBlanks, reads.read, more]

theorem readMembers_membersText (nonempty : ms ≠ []) (reads : ∀ m ∈ ms, Reads depth m.2)
    (enough : ms.length ≤ fuel) (rest : List Char) :
    readMembers (readValue depth) fuel (membersText ms ++ '\x7d' :: rest) =
      some (sortedMembers ms, rest) := by
  induction ms generalizing fuel with
  | nil => exact absurd rfl nonempty
  | cons m ms ih =>
    obtain ⟨fuel, rfl⟩ : ∃ k, fuel = k + 1 :=
      Nat.exists_eq_add_one.mpr (Nat.lt_of_lt_of_le (by simp) enough)
    obtain ⟨name, j⟩ := m
    have value := reads (name, j) (by simp)
    cases ms with
    | nil =>
      rw [membersText, List.append_assoc, List.cons_append]
      exact readMembers_last value name rest
    | cons m ms =>
      have more := ih (by simp) (fun m mem => reads m (by simp [mem]))
        (Nat.le_of_succ_le_succ enough)
      simp only [membersText, List.append_assoc, List.cons_append]
      exact readMembers_more value name more

theorem length_le_length_membersText (ms : List (String × Json)) :
    ms.length ≤ (membersText ms).length := by
  induction ms with
  | nil => simp
  | cons m ms ih =>
    cases ms with
    | nil => simp [membersText, stringText]
    | cons m' ms =>
      simp only [membersText, List.length_append, List.length_cons] at ih ⊢
      omega

theorem exists_membersText (nonempty : ms ≠ []) : ∃ cs, membersText ms = '"' :: cs := by
  cases ms with
  | nil => exact absurd rfl nonempty
  | cons m ms => cases ms <;> simp [membersText, stringText]

theorem reads_object (reads : ∀ m ∈ ms, Reads depth m.2) : Reads (depth + 1) (object ms) where
  start := ⟨'\x7b', membersText ms ++ ['\x7d'], by simp [text], by decide⟩
  read rest := by
    by_cases none : ms = []
    · subst none
      simp [text, membersText, readValue, skipBlanks_cons, isBlank, sorted, sortedMembers,
        sortMembers]
    · have enough : ms.length ≤ (membersText ms ++ '\x7d' :: rest).length :=
        Nat.le_trans (length_le_length_membersText ms) (by simp)
      have read := readMembers_membersText none reads enough rest
      obtain ⟨cs, first⟩ := exists_membersText none
      rw [first, List.cons_append] at read
      simp only [text, first, List.cons_append, List.append_assoc, List.nil_append, sorted,
        readValue, skipBlanks_cons (show isBlank '"' = false by decide), read]
      rfl

theorem parse_compact (reads : Reads maxDepth j) : parse j.compact = some j.sorted := by
  have read := reads.read []
  have start := reads.skipBlanks []
  rw [List.append_nil] at read start
  have rest : skipBlanks [] = [] := rfl
  simp [parse, compact, start, read, rest]

end SessionKit.Json
