import SessionKit.Password.Hasher
import SessionKit.Proofs.Base64
import SessionKit.Proofs.Numerals

/-!
# Written password hashes

A text is read as a password hash if it follows the grammar below and the costs are within their
limits. The numerals may be spelled in several ways, and that is all that a hash can be written
differently in: a hash whose numerals are plain is written as it was read.
-/

namespace SessionKit.Password

variable {sep : Char} {cs segment part : List Char} {text : String}

/-! ## Segments -/

theorem splitAt_eq_splitOn (sep : Char) (cs : List Char) : splitAt sep cs = cs.splitOn sep := by
  induction cs with
  | nil => simp [splitAt]
  | cons c cs ih =>
    rw [splitAt, List.splitOn_cons_eq_if_modifyHead, ih]
    by_cases same : c = sep
    · simp [same]
    · simp only [same, if_false, beq_iff_eq]
      cases parts : cs.splitOn sep with
      | nil => exact absurd parts (List.splitOn_ne_nil sep cs)
      | cons part parts => rfl

namespace Encoded

variable {e : Encoded} {name : Char} {n limit : UInt32} {bs : Bytes}
  {fault : Base64.DecodeError → Malformed} {version : Argon2.Version}

/-! ## Pieces -/

theorem ofNumber?_eq_some {n : Nat} :
    Argon2.Version.ofNumber? n = some version ↔ n = version.number.toNat := by
  unfold Argon2.Version.ofNumber?
  constructor
  · intro known
    split at known
    next same => exact Option.some.inj known ▸ same
    next =>
      split at known
      next same => exact Option.some.inj known ▸ same
      next => cases known
  · rintro rfl
    cases version <;> rfl

theorem readVersion_eq_ok :
    readVersion segment = .ok version ↔
      ∃ numeral, segment = 'v' :: '=' :: numeral ∧
        Numeral.Spells numeral version.number.toNat := by
  unfold readVersion
  constructor
  · intro ok
    simp only at ok
    split at ok
    next => cases ok
    next n number =>
      split at ok
      next version' known =>
        cases ok
        split at number
        next numeral =>
          refine ⟨numeral, rfl, ?_⟩
          rw [← ofNumber?_eq_some.mp known]
          exact Numeral.word32?_eq_some.mp number
        next => cases number
      next => cases ok
  · rintro ⟨numeral, rfl, spells⟩
    simp only [Numeral.word32?_eq_some.mpr spells, ofNumber?_eq_some.mpr rfl]

theorem parameter_eq_ok :
    parameter name part = .ok n ↔
      ∃ numeral, part = name :: '=' :: numeral ∧ Numeral.Spells numeral n.toNat := by
  simp only [parameter, ← Numeral.word32?_eq_some]
  split
  next c numeral =>
    by_cases same : c = name
    · cases word : Numeral.word32? numeral with
      | none => simp [same, word]
      | some m => simp [same, word]
    · simp [same]
  next shape =>
    constructor
    · nofun
    · rintro ⟨numeral, rfl, _⟩
      exact absurd rfl (shape name numeral)

theorem checkLimit_eq_ok {u : Unit} : checkLimit name n limit = .ok u ↔ n ≤ limit := by
  rw [checkLimit, guard_eq_ok, UInt32.not_lt]
  exact and_iff_left rfl

theorem readBytes_eq_ok :
    readBytes fault segment = .ok bs ↔ segment = Base64.encode .standard bs := by
  have written : Base64.decodeText .standard (String.ofList segment) = .ok bs ↔
      segment = Base64.encode .standard bs := by
    rw [Base64.decodeText_eq_ok, Base64.encodeText, String.ofList_inj]
  rw [← written, readBytes]
  cases Base64.decodeText .standard (String.ofList segment) <;> simp [Except.mapError]

/-! ## The grammar -/

/-- How the costs and the numerals of a hash are spelled. -/
structure Spelling where
  costs : List Char
  version : List Char
  memory : List Char
  iterations : List Char
  parallelism : List Char

/-- The three costs, apart. -/
def Spelling.parts (s : Spelling) : List (List Char) :=
  ['m' :: '=' :: s.memory, 't' :: '=' :: s.iterations, 'p' :: '=' :: s.parallelism]

/-- An empty segment, the algorithm, the version, the costs, and the salt and the key in base64
without padding and without stray bits. -/
def Spelling.segments (s : Spelling) (e : Encoded) : List (List Char) :=
  [[], algorithm.toList, 'v' :: '=' :: s.version, s.costs, Base64.encode .standard e.salt,
    Base64.encode .standard e.key]

/-- The text has the form of a password hash, and this is what it says. -/
structure Spells (text : String) (s : Spelling) (e : Encoded) : Prop where
  segments : text.toList.splitOn '$' = s.segments e
  parts : s.costs.splitOn ',' = s.parts
  version : Numeral.Spells s.version e.version.number.toNat
  memory : Numeral.Spells s.memory e.memoryKib.toNat
  iterations : Numeral.Spells s.iterations e.iterations.toNat
  parallelism : Numeral.Spells s.parallelism e.parallelism.toNat

/-- A text spells its hash in one way. -/
theorem Spells.unique {s s' : Spelling} {e' : Encoded} (spells : Spells text s e)
    (spells' : Spells text s' e') : s = s' := by
  have segments := spells.segments.symm.trans spells'.segments
  have parts := spells'.parts
  simp only [Spelling.segments, List.cons.injEq, true_and, and_true] at segments
  obtain ⟨version, costs, -, -⟩ := segments
  rw [← costs, spells.parts] at parts
  simp only [Spelling.parts, List.cons.injEq, true_and, and_true] at parts
  obtain ⟨memory, iterations, parallelism⟩ := parts
  cases s
  cases s'
  congr

/-- The costs are within the limits of the reader. -/
structure Limited (memory iterations parallelism : UInt32) : Prop where
  memory : memory ≤ maxMemoryKib
  iterations : iterations ≤ maxIterations
  parallelism : parallelism ≤ maxParallelism

theorem readCosts_eq_ok {memory iterations parallelism : UInt32} :
    readCosts segment = .ok (memory, iterations, parallelism) ↔
      (∃ m t p, segment.splitOn ',' = ['m' :: '=' :: m, 't' :: '=' :: t, 'p' :: '=' :: p] ∧
        Numeral.Spells m memory.toNat ∧ Numeral.Spells t iterations.toNat ∧
          Numeral.Spells p parallelism.toNat) ∧
      Limited memory iterations parallelism := by
  unfold readCosts
  rw [splitAt_eq_splitOn]
  split
  next first second third parts =>
    simp only [bind_eq_ok, parameter_eq_ok, checkLimit_eq_ok]
    constructor
    · rintro ⟨_, ⟨m, rfl, hm⟩, _, ⟨t, rfl, ht⟩, _, ⟨p, rfl, hp⟩, _, lm, _, lt, _, lp, ⟨⟩⟩
      exact ⟨⟨m, t, p, parts, hm, ht, hp⟩, lm, lt, lp⟩
    · rintro ⟨⟨m, t, p, same, hm, ht, hp⟩, lm, lt, lp⟩
      obtain ⟨rfl, rfl, rfl⟩ : first = _ ∧ second = _ ∧ third = _ := by
        simpa [parts] using same
      exact ⟨_, ⟨m, rfl, hm⟩, _, ⟨t, rfl, ht⟩, _, ⟨p, rfl, hp⟩, (), lm, (), lt, (), lp, rfl⟩
  next other =>
    constructor
    · nofun
    · rintro ⟨⟨m, t, p, same, _⟩, _⟩
      exact absurd same (other _ _ _)

/-- What the last four segments hold. -/
def readFields (number costs salt key : List Char) : Except Malformed Encoded := do
  let version ← readVersion number
  let (memoryKib, iterations, parallelism) ← readCosts costs
  let salt ← readBytes .invalidSalt salt
  let key ← readBytes .invalidKey key
  if key = [] then .error .emptyKey
  else return { version, memoryKib, iterations, parallelism, salt, key }

theorem readFields_eq_ok {number costs salt key : List Char} :
    readFields number costs salt key = .ok e ↔
      readVersion number = .ok e.version ∧
        readCosts costs = .ok (e.memoryKib, e.iterations, e.parallelism) ∧
        salt = Base64.encode .standard e.salt ∧ key = Base64.encode .standard e.key ∧
        e.key ≠ [] := by
  simp only [readFields, bind_eq_ok, readBytes_eq_ok, guard_eq_ok]
  constructor
  · rintro ⟨version, hv, ⟨m, t, p⟩, hc, salt, rfl, key, rfl, some, ⟨⟩⟩
    exact ⟨hv, hc, rfl, rfl, some⟩
  · rintro ⟨hv, hc, rfl, rfl, some⟩
    exact ⟨_, hv, _, hc, _, rfl, _, rfl, some, rfl⟩

theorem parse_of_segments {start tag number costs salt key : List Char}
    (segments : text.toList.splitOn '$' = [start, tag, number, costs, salt, key]) :
    parse text =
      if start ≠ [] then .error .missingDelimiter
      else if tag ≠ algorithm.toList then
        .error (.unsupportedAlgorithm (String.ofList tag))
      else readFields number costs salt key := by
  rw [parse, splitAt_eq_splitOn, segments]
  by_cases empty : start = []
  · by_cases same : tag = algorithm.toList
    · simp only [empty, same, ne_eq, not_true_eq_false, if_false]
      rfl
    · simp only [empty, same, ne_eq, not_true_eq_false, not_false_eq_true, if_false, if_true]
      rfl
  · simp only [empty, ne_eq, not_false_eq_true, if_true]
    rfl

theorem exists_segments_of_parse (ok : parse text = .ok e) :
    ∃ start tag number costs salt key,
      text.toList.splitOn '$' = [start, tag, number, costs, salt, key] := by
  rw [parse, splitAt_eq_splitOn] at ok
  split at ok
  next start tag number costs salt key segments => exact ⟨_, _, _, _, _, _, segments⟩
  next => cases ok

/-- The texts that are read are those of the grammar whose costs are within the limits. -/
theorem parse_eq_ok :
    parse text = .ok e ↔
      (∃ s, Spells text s e) ∧ Limited e.memoryKib e.iterations e.parallelism ∧ e.key ≠ [] := by
  constructor
  · intro ok
    obtain ⟨start, tag, number, costs, salt, key, segments⟩ := exists_segments_of_parse ok
    simp only [parse_of_segments segments, guard_eq_ok, ne_eq, not_not] at ok
    obtain ⟨rfl, rfl, ok⟩ := ok
    obtain ⟨hv, hc, rfl, rfl, some⟩ := readFields_eq_ok.mp ok
    obtain ⟨v, rfl, version⟩ := readVersion_eq_ok.mp hv
    obtain ⟨⟨m, t, p, parts, memory, iterations, parallelism⟩, limited⟩ :=
      readCosts_eq_ok.mp hc
    exact ⟨⟨⟨costs, v, m, t, p⟩, segments, parts, version, memory, iterations, parallelism⟩,
      limited, some⟩
  · rintro ⟨⟨s, spells⟩, limited, some⟩
    rw [parse_of_segments spells.segments, if_neg (by simp), if_neg (by simp), readFields_eq_ok]
    refine ⟨?_, ?_, rfl, rfl, some⟩
    · exact readVersion_eq_ok.mpr ⟨_, rfl, spells.version⟩
    · exact readCosts_eq_ok.mpr ⟨⟨_, _, _, spells.parts, spells.memory, spells.iterations,
        spells.parallelism⟩, limited⟩

/-! ## Writing -/

/-- The numerals have neither plus signs nor leading zeros. -/
structure Spelling.Plain (s : Spelling) : Prop where
  version : Numeral.Plain s.version
  memory : Numeral.Plain s.memory
  iterations : Numeral.Plain s.iterations
  parallelism : Numeral.Plain s.parallelism

/-- The spelling of what is written. -/
def spelling (e : Encoded) : Spelling where
  version := Numeral.write e.version.number.toNat
  memory := Numeral.write e.memoryKib.toNat
  iterations := Numeral.write e.iterations.toNat
  parallelism := Numeral.write e.parallelism.toNat
  costs := e.costsText.toList

theorem toList_costsText (e : Encoded) :
    e.costsText.toList = [','].intercalate e.spelling.parts := by
  simp only [Spelling.parts, List.intercalate_cons_cons, List.intercalate_singleton,
    List.append_assoc]
  simp only [costsText, Nat.toString_eq_repr, String.toList_append, Nat.toList_repr,
    List.append_assoc]
  rfl

theorem toList_write (e : Encoded) :
    e.write.toList = ['$'].intercalate (e.spelling.segments e) := by
  simp only [Spelling.segments, List.intercalate_cons_cons, List.intercalate_singleton,
    List.append_assoc]
  simp only [write, Nat.toString_eq_repr, Base64.encodeText, String.toList_append,
    Nat.toList_repr, String.toList_ofList, List.append_assoc]
  rfl

theorem not_mem_parts (e : Encoded) : ∀ part ∈ e.spelling.parts, ',' ∉ part := by
  have free (n : Nat) : ',' ∉ Numeral.write n := Numeral.not_mem_write (by decide)
  simp [Spelling.parts, spelling, free]

/-- Nothing that is written into a segment ends it. -/
theorem not_mem_segments (e : Encoded) : ∀ segment ∈ e.spelling.segments e, '$' ∉ segment := by
  have digits (n : Nat) : '$' ∉ Numeral.write n := Numeral.not_mem_write (by decide)
  have symbols (bs : Bytes) : '$' ∉ Base64.encode .standard bs := fun mem => by
    obtain ⟨n, small, same⟩ := Base64.exists_symbol_of_mem_encode mem
    exact (Base64.Alphabet.symbol_plain small).2 same.symm
  have tag : '$' ∉ algorithm.toList := by decide
  have costs : '$' ∉ e.costsText.toList := by
    rw [toList_costsText]
    simp [Spelling.parts, spelling, digits]
  simp [Spelling.segments, spelling, digits, symbols, tag, costs]

/-- What is written spells what it is written for. -/
theorem spells_write (e : Encoded) : Spells e.write e.spelling e where
  segments := by
    rw [toList_write, List.splitOn_intercalate _ e.not_mem_segments (List.cons_ne_nil _ _)]
  parts := by
    show e.costsText.toList.splitOn ',' = _
    rw [toList_costsText, List.splitOn_intercalate _ e.not_mem_parts (List.cons_ne_nil _ _)]
  version := Numeral.spells_write _
  memory := Numeral.spells_write _
  iterations := Numeral.spells_write _
  parallelism := Numeral.spells_write _

theorem plain_spelling (e : Encoded) : e.spelling.Plain where
  version := Numeral.plain_write _
  memory := Numeral.plain_write _
  iterations := Numeral.plain_write _
  parallelism := Numeral.plain_write _

/-- There is one plain spelling of a hash. -/
theorem eq_spelling {s : Spelling} (spells : Spells text s e) (plain : s.Plain) :
    s = e.spelling := by
  have costs : s.costs = [','].intercalate s.parts := by
    rw [← spells.parts, List.intercalate_splitOn]
  obtain ⟨c, v, m, t, p⟩ := s
  obtain rfl := Numeral.eq_write_of_spells spells.version plain.version
  obtain rfl := Numeral.eq_write_of_spells spells.memory plain.memory
  obtain rfl := Numeral.eq_write_of_spells spells.iterations plain.iterations
  obtain rfl := Numeral.eq_write_of_spells spells.parallelism plain.parallelism
  obtain rfl : c = e.costsText.toList := costs.trans e.toList_costsText.symm
  rfl

/-- A text with plain numerals is written as it was read. -/
theorem write_eq_of_spells {s : Spelling} (spells : Spells text s e) (plain : s.Plain) :
    e.write = text := by
  apply String.toList_inj.mp
  rw [toList_write, ← eq_spelling spells plain, ← spells.segments, List.intercalate_splitOn]

/-! ## The written form -/

/-- All numerals of the text are plain. -/
def PlainNumerals (text : String) : Prop := ∃ s e, Spells text s e ∧ s.Plain

theorem plainNumerals_write (e : Encoded) : PlainNumerals e.write :=
  ⟨e.spelling, e, e.spells_write, e.plain_spelling⟩

/-- A hash within the limits is read from what is written for it, and what is read from a text with
plain numerals is written as this text. So no two such texts are read alike. -/
theorem parse_write_inverse :
    (∀ e : Encoded, e.memoryKib.toNat ≤ 4194304 → e.iterations.toNat ≤ 64 →
      e.parallelism.toNat ≤ 64 → e.key ≠ [] → parse e.write = .ok e) ∧
    (∀ (text : String) (e : Encoded), parse text = .ok e → PlainNumerals text → e.write = text) ∧
    ∀ (text text' : String) (e : Encoded), parse text = .ok e → parse text' = .ok e →
      PlainNumerals text → PlainNumerals text' → text = text' := by
  have back {text : String} {e : Encoded} (ok : parse text = .ok e) (plain : PlainNumerals text) :
      e.write = text := by
    obtain ⟨⟨s, spells⟩, _, _⟩ := parse_eq_ok.mp ok
    obtain ⟨s', e', spells', plain⟩ := plain
    exact write_eq_of_spells spells (spells.unique spells' ▸ plain)
  refine ⟨fun e memory iterations parallelism some => ?_, fun text e => back, ?_⟩
  · have limited : Limited e.memoryKib e.iterations e.parallelism :=
      ⟨memory, iterations, parallelism⟩
    exact parse_eq_ok.mpr ⟨⟨_, e.spells_write⟩, limited, some⟩
  · intro text text' e ok ok' plain plain'
    rw [← back ok plain, back ok' plain']

/-- Nothing but zeros, under the lowest costs. -/
def sample : Encoded where
  version := .v13
  memoryKib := 8
  iterations := 1
  parallelism := 1
  salt := List.replicate 8 0
  key := List.replicate 4 0

theorem write_sample : sample.write = "$argon2id$v=19$m=8,t=1,p=1$AAAAAAAAAAA$AAAAAA" := by
  decide +kernel

theorem parse_write_inverse_sample :
    parse "$argon2id$v=19$m=8,t=1,p=1$AAAAAAAAAAA$AAAAAA" = .ok sample ∧
      sample.write = "$argon2id$v=19$m=8,t=1,p=1$AAAAAAAAAAA$AAAAAA" := by
  have read := parse_write_inverse.1 sample (by decide) (by decide) (by decide) (by decide)
  have plain := plainNumerals_write sample
  rw [write_sample] at read plain
  exact ⟨read, parse_write_inverse.2.1 _ sample read plain⟩

end Encoded
end SessionKit.Password
