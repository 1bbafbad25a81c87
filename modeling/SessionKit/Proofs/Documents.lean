import SessionKit.Proofs.Base64
import SessionKit.Proofs.Scalars

/-!
# Documents of sections

A document is read as the sections that it was written for, if their names are bare words and none
is given twice. Each line is read as one statement, and the statements are built into tables.
-/

namespace SessionKit.Toml

variable {c : Char} {cs rest : List Char}

/-! ## Lines -/

/-- A name that is a key without quotes around it. -/
structure IsBare (name : String) : Prop where
  nonempty : name.toList ≠ []
  plain : ∀ c ∈ name.toList, isBareKey c = true

variable {name : String}

instance : Decidable (IsBare name) :=
  decidable_of_iff (name.toList ≠ [] ∧ name.toList.all isBareKey = true)
    ⟨fun h => ⟨h.1, List.all_eq_true.mp h.2⟩, fun h => ⟨h.1, List.all_eq_true.mpr h.2⟩⟩

theorem IsBare.exists_cons (bare : IsBare name) :
    ∃ c cs, name.toList = c :: cs ∧ isBareKey c = true := by
  cases same : name.toList with
  | nil => exact absurd same bare.nonempty
  | cons c cs => exact ⟨c, cs, rfl, bare.plain c (by simp [same])⟩

/-- A bare key does not begin like a quoted one, a header, a comment or an empty line. -/
theorem start_of_isBareKey (bare : isBareKey c = true) :
    isBlank c = false ∧ c ≠ '"' ∧ c ≠ '\'' ∧ c ≠ '[' ∧ c ≠ '#' ∧ c ≠ '\n' ∧ c ≠ '\r' := by
  have ne (d : Char) (h : isBareKey d = false) : c ≠ d := fun same => by simp [same, h] at bare
  have blank : isBlank c = false := by simp [isBlank, ne ' ' rfl, ne '\t' rfl]
  exact ⟨blank, ne _ rfl, ne _ rfl, ne _ rfl, ne _ rfl, ne _ rfl, ne _ rfl⟩

theorem readKeyPart_append (bare : IsBare name) {d : Char} (stop : isBareKey d = false)
    (rest : List Char) : readKeyPart (name.toList ++ d :: rest) = some (name, d :: rest) := by
  have taken : (name.toList ++ d :: rest).takeWhile isBareKey = name.toList := by
    simp [List.takeWhile_append_of_pos bare.plain, stop]
  have left : (name.toList ++ d :: rest).dropWhile isBareKey = d :: rest := by
    simp [List.dropWhile_append_of_pos bare.plain, stop]
  obtain ⟨c, cs, same, start⟩ := bare.exists_cons
  obtain ⟨-, double, single, -⟩ := start_of_isBareKey start
  have named : String.ofList (c :: cs) = name := by simp [← same]
  rw [same] at taken left ⊢
  simp only [List.cons_append] at taken left ⊢
  simp [readKeyPart, double, single, taken, left, named]

theorem skipBlanks_cons (start : isBlank c = false) (cs : List Char) :
    skipBlanks (c :: cs) = c :: cs := by
  simp [skipBlanks, start]

theorem skipBlanks_space (cs : List Char) : skipBlanks (' ' :: cs) = skipBlanks cs := by
  simp [skipBlanks, isBlank]

theorem endOfLine?_newline (rest : List Char) : endOfLine? ('\n' :: rest) = some rest := rfl

/-- A bare name is a whole key unless a dot follows. -/
theorem readKey_append (bare : IsBare name) {d : Char} (stop : isBareKey d = false)
    {left : List Char} (skipped : skipBlanks (d :: rest) = left)
    (undotted : ∀ more, left ≠ '.' :: more) (parts : Nat) :
    readKey (parts + 1) (name.toList ++ d :: rest) = some ({ parents := [], name }, left) := by
  have unindented : skipBlanks (name.toList ++ d :: rest) = name.toList ++ d :: rest := by
    obtain ⟨c, cs, same, start⟩ := bare.exists_cons
    simp [same, skipBlanks_cons (start_of_isBareKey start).1]
  simp [readKey, unindented, readKeyPart_append bare stop, skipped]

theorem readStatement_header (bare : IsBare name) (rest : List Char) :
    readStatement ('[' :: (name.toList ++ ']' :: '\n' :: rest)) =
      some (.table { parents := [], name }, rest) := by
  have key : readKey maxKeyParts (name.toList ++ ']' :: '\n' :: rest) =
      some ({ parents := [], name }, ']' :: '\n' :: rest) :=
    readKey_append bare (by decide) (skipBlanks_cons (by decide) _) (by simp) 78
  obtain ⟨c, cs, same, start⟩ := bare.exists_cons
  have single := (start_of_isBareKey start).2.2.2.1
  rw [same] at key ⊢
  simp only [List.cons_append] at key ⊢
  simp [readStatement, readHeader, single, key, endOfLine?_newline]

theorem readStatement_entry (bare : IsBare name) {v : Scalar} (floor : v.HasFloor)
    (written : v.text = .ok cs) (rest : List Char) :
    readStatement (name.toList ++ ' ' :: '=' :: ' ' :: (cs ++ '\n' :: rest)) =
      some (.value { parents := [], name } v.value, rest) := by
  have key : readKey maxKeyParts (name.toList ++ ' ' :: '=' :: ' ' :: (cs ++ '\n' :: rest)) =
      some ({ parents := [], name }, '=' :: ' ' :: (cs ++ '\n' :: rest)) :=
    readKey_append bare (by decide) (by simp [skipBlanks, isBlank]) (by simp) 78
  have value : readValue maxDepth (cs ++ '\n' :: rest) = some (v.value, '\n' :: rest) :=
    readValue_text floor written 78 rest
  have unindented : skipBlanks (' ' :: (cs ++ '\n' :: rest)) = cs ++ '\n' :: rest := by
    obtain ⟨c, more, rfl, start⟩ := exists_text written
    rw [skipBlanks_space]
    exact skipBlanks_cons start _
  obtain ⟨c, more, same, start⟩ := bare.exists_cons
  have bracket := (start_of_isBareKey start).2.2.2.1
  rw [same] at key ⊢
  simp only [List.cons_append] at key ⊢
  simp [readStatement, bracket, readPair, key, unindented, value, endOfLine?_newline]

/-- The text is whole lines, which are read as these statements whatever follows them. -/
def Lines (cs : List Char) (statements : List Statement) : Prop :=
  ∃ lines ≤ cs.length, ∀ more rest, readStatements (lines + more) (cs ++ rest) =
    (readStatements more rest).map (statements ++ ·)

theorem Lines.nil : Lines [] [] := ⟨0, Nat.le_refl 0, fun more rest => by simp⟩

theorem Lines.append {cs' : List Char} {statements statements' : List Statement}
    (lines : Lines cs statements) (lines' : Lines cs' statements') :
    Lines (cs ++ cs') (statements ++ statements') := by
  obtain ⟨n, short, read⟩ := lines
  obtain ⟨n', short', read'⟩ := lines'
  refine ⟨n + n', by simp; omega, fun more rest => ?_⟩
  rw [Nat.add_assoc, List.append_assoc, read, read']
  simp [Option.map_map, Function.comp_def]

theorem Lines.empty : Lines ['\n'] [] := by
  refine ⟨1, Nat.le_refl 1, fun more rest => ?_⟩
  simp [Nat.add_comm 1, readStatements, skipBlanks_cons (c := '\n') rfl, endOfLine?_newline]

theorem Lines.of_readStatement {statement : Statement} {c : Char} {cs : List Char}
    (start : isBlank c = false ∧ c ≠ '#' ∧ c ≠ '\n' ∧ c ≠ '\r')
    (read : ∀ rest, readStatement (c :: cs ++ rest) = some (statement, rest)) :
    Lines (c :: cs) [statement] := by
  refine ⟨1, by simp, fun more rest => ?_⟩
  have here := read rest
  simp only [List.cons_append] at here ⊢
  have step : readStatements (more + 1) (c :: (cs ++ rest)) =
      (readStatements more rest).bind fun later => some (statement :: later) := by
    simp [readStatements, skipBlanks_cons start.1, start, here]
  rw [Nat.add_comm, step]
  cases readStatements more rest <;> rfl

theorem Lines.readStatements_eq {statements : List Statement} (lines : Lines cs statements) :
    readStatements (cs.length + 1) cs = some statements := by
  obtain ⟨n, short, read⟩ := lines
  -- There are no more lines than characters, so they all are read, and then the end is.
  have last : readStatements (cs.length - n + 1) [] = some [] := rfl
  have all := read (cs.length - n + 1) []
  rw [List.append_nil, last, ← Nat.add_assoc, Nat.add_sub_cancel' short] at all
  simpa using all

/-! ## Sections -/

namespace Section

/-- The statements that a section is read as. -/
def statements (s : Section) : List Statement :=
  .table { parents := [], name := s.name } ::
    s.entries.map fun (name, v) => .value { parents := [], name } v.value

/-- All names are bare, no name is given twice, and no integer is too low. -/
structure Proper (s : Section) : Prop where
  name : IsBare s.name
  names : ∀ e ∈ s.entries, IsBare e.1
  distinct : (s.entries.map Prod.fst).Nodup
  floor : ∀ e ∈ s.entries, e.2.HasFloor

/-- What a section is in the table of the document. -/
def entry (s : Section) : String × Toml :=
  (s.name, .table (s.entries.map fun (name, v) => (name, v.value)))

end Section

theorem lines_entry (bare : IsBare name) {v : Scalar} (floor : v.HasFloor)
    (written : v.text = .ok cs) :
    Lines (name.toList ++ [' ', '=', ' '] ++ cs ++ ['\n'])
      [.value { parents := [], name } v.value] := by
  have read := readStatement_entry bare floor written
  obtain ⟨c, more, same, start⟩ := bare.exists_cons
  obtain ⟨blank, -, -, -, hash, newline, return'⟩ := start_of_isBareKey start
  rw [same] at read ⊢
  exact .of_readStatement ⟨blank, hash, newline, return'⟩ (by simpa using read)

theorem lines_entriesText {entries : List (String × Scalar)}
    (bare : ∀ e ∈ entries, IsBare e.1) (floor : ∀ e ∈ entries, e.2.HasFloor)
    (written : entriesText entries = .ok cs) :
    Lines cs (entries.map fun (name, v) => .value { parents := [], name } v.value) := by
  induction entries generalizing cs with
  | nil =>
    obtain rfl := Except.ok.inj written
    exact .nil
  | cons e entries ih =>
    obtain ⟨name, v⟩ := e
    simp only [List.mem_cons, forall_eq_or_imp] at bare floor
    simp only [entriesText, bind_eq_ok] at written
    obtain ⟨here, text, later, texts, done⟩ := written
    obtain rfl := Except.ok.inj done
    have first := lines_entry bare.1 floor.1 text
    have others := ih bare.2 floor.2 texts
    simpa using first.append others

theorem lines_text {s : Section} (proper : s.Proper) (written : s.text = .ok cs) :
    Lines cs s.statements := by
  simp only [Section.text, bind_eq_ok] at written
  obtain ⟨texts, entries, done⟩ := written
  obtain rfl := Except.ok.inj done
  have header : Lines ('[' :: (s.name.toList ++ [']', '\n']))
      [.table { parents := [], name := s.name }] :=
    .of_readStatement (by decide) (by simpa using readStatement_header proper.name)
  have lines := header.append (lines_entriesText proper.names proper.floor entries)
  simpa [Section.statements] using lines

theorem lines_sectionsText {sections : List Section} (proper : ∀ s ∈ sections, s.Proper)
    (written : sectionsText sections = .ok cs) :
    Lines cs (sections.flatMap Section.statements) := by
  induction sections using sectionsText.induct generalizing cs with
  | case1 =>
    obtain rfl := Except.ok.inj written
    exact .nil
  | case2 s => simpa using lines_text (proper s (by simp)) written
  | case3 s rest some ih =>
    simp only [sectionsText, bind_eq_ok] at written
    obtain ⟨here, text, later, texts, done⟩ := written
    obtain rfl := Except.ok.inj done
    have first := lines_text (proper s (by simp)) text
    have others := ih (fun s mem => proper s (by simp [mem])) texts
    -- An empty line stands between two sections and adds no statement.
    simpa using first.append (Lines.empty.append others)

/-! ## Too large integers -/

/-- Two parts are written together if both are. -/
theorem exists_both_iff {ε α β γ : Type} {x : Except ε α} {y : Except ε β} {f : α → β → γ} :
    (∃ c, (do return f (← x) (← y)) = Except.ok c) ↔ (∃ a, x = .ok a) ∧ ∃ b, y = .ok b := by
  cases x <;> cases y <;> simp [bind, Except.bind, pure, Except.pure]

theorem exists_entriesText_iff {entries : List (String × Scalar)} :
    (∃ cs, entriesText entries = .ok cs) ↔ ∀ e ∈ entries, ¬ e.2.Exceeds := by
  induction entries with
  | nil => simp [entriesText]
  | cons e entries ih =>
    obtain ⟨name, v⟩ := e
    rw [entriesText, exists_both_iff, ih, exists_text_iff]
    simp

theorem exists_sectionText_iff {s : Section} :
    (∃ cs, s.text = .ok cs) ↔ ∀ e ∈ s.entries, ¬ e.2.Exceeds := by
  rw [← exists_entriesText_iff, Section.text]
  cases entriesText s.entries <;> simp [bind, Except.bind, pure, Except.pure]

theorem exists_sectionsText_iff {sections : List Section} :
    (∃ cs, sectionsText sections = .ok cs) ↔ ∀ s ∈ sections, ∀ e ∈ s.entries, ¬ e.2.Exceeds := by
  induction sections using sectionsText.induct with
  | case1 => simp [sectionsText]
  | case2 s => simp [sectionsText, exists_sectionText_iff]
  | case3 s rest some ih =>
    rw [sectionsText, exists_both_iff, ih, exists_sectionText_iff]
    · simp
    · exact some

/-- A document is written unless some integer in it is too large. -/
theorem exists_write_iff {sections : List Section} :
    (∃ text, write sections = .ok text) ↔ ∀ s ∈ sections, ∀ e ∈ s.entries, ¬ e.2.Exceeds := by
  rw [← exists_sectionsText_iff, write]
  cases sectionsText sections <;> simp [bind, Except.bind, pure, Except.pure]

/-! ## Tables -/

namespace Entries

variable {entries : Entries} {node : Node}

theorem find?_eq_none (fresh : name ∉ entries.map Prod.fst) : find? name entries = none := by
  induction entries with
  | nil => rfl
  | cons e entries ih =>
    simp only [List.map_cons, List.mem_cons, not_or] at fresh
    simp [find?, Ne.symm fresh.1, ih fresh.2]

theorem find?_append (fresh : name ∉ entries.map Prod.fst) (node : Node) :
    find? name (entries ++ [(name, node)]) = some node := by
  induction entries with
  | nil => simp [find?]
  | cons e entries ih =>
    simp only [List.map_cons, List.mem_cons, not_or] at fresh
    simp [find?, Ne.symm fresh.1, ih fresh.2]

theorem replace_append (fresh : name ∉ entries.map Prod.fst) (old node : Node) :
    replace name node (entries ++ [(name, old)]) = entries ++ [(name, node)] := by
  induction entries with
  | nil => simp [replace]
  | cons e entries ih =>
    simp only [List.map_cons, List.mem_cons, not_or] at fresh
    simp [replace, Ne.symm fresh.1, ih fresh.2]

end Entries

/-- The draft whose last table, with this name, has these entries. -/
def draftOf (root : Entries) (name : String) (entries : Entries) : Draft where
  root := root ++ [(name, .table .header entries)]
  current := [name]

theorem add_table {d : Draft} (fresh : name ∉ d.root.map Prod.fst) :
    d.add (.table { parents := [], name }) = some (draftOf d.root name []) := by
  simp [Draft.add, Entries.openTable, Entries.descend, Entries.find?_eq_none fresh, draftOf]

theorem add_value {root entries : Entries} {key : String} (fresh : name ∉ root.map Prod.fst)
    (unset : key ∉ entries.map Prod.fst) (v : Toml) :
    (draftOf root name entries).add (.value { parents := [], name := key } v) =
      some (draftOf root name (entries ++ [(key, .value v)])) := by
  simp [Draft.add, draftOf, Entries.descend, Entries.define, Entries.find?_append fresh,
    Entries.find?_eq_none unset, Entries.replace_append fresh]

theorem foldlM_values {root entries : Entries} (fresh : name ∉ root.map Prod.fst)
    {pairs : List (String × Scalar)}
    (distinct : (entries.map Prod.fst ++ pairs.map Prod.fst).Nodup) :
    (pairs.map fun (key, v) => Statement.value { parents := [], name := key } v.value).foldlM
        Draft.add (draftOf root name entries) =
      some (draftOf root name (entries ++ pairs.map fun (key, v) => (key, .value v.value))) := by
  induction pairs generalizing entries with
  | nil => simp
  | cons pair pairs ih =>
    obtain ⟨key, v⟩ := pair
    have unset : key ∉ entries.map Prod.fst := by
      simp only [List.nodup_append, List.map_cons, List.mem_cons] at distinct
      exact fun mem => distinct.2.2 key mem key (.inl rfl) rfl
    have distinct' : ((entries ++ [(key, Node.value v.value)]).map Prod.fst ++
        pairs.map Prod.fst).Nodup := by simpa using distinct
    simp [add_value fresh unset, ih distinct']

/-- The values of a section while the document is read. -/
def Section.nodes (s : Section) : Entries := s.entries.map fun (name, v) => (name, .value v.value)

/-- The table of a section while the document is read. -/
def Section.node (s : Section) : String × Node := (s.name, .table .header s.nodes)

theorem foldlM_statements {s : Section} (proper : s.Proper) {d : Draft}
    (fresh : s.name ∉ d.root.map Prod.fst) :
    ∃ d', s.statements.foldlM Draft.add d = some d' ∧ d'.root = d.root ++ [s.node] := by
  have distinct : (([] : Entries).map Prod.fst ++ s.entries.map Prod.fst).Nodup := by
    simpa using proper.distinct
  have values := foldlM_values fresh distinct
  refine ⟨draftOf d.root s.name s.nodes, ?_, rfl⟩
  rw [Section.statements, List.foldlM_cons, add_table fresh]
  exact values

theorem foldlM_sections {sections : List Section} (proper : ∀ s ∈ sections, s.Proper) {d : Draft}
    (distinct : (d.root.map Prod.fst ++ sections.map Section.name).Nodup) :
    ∃ d', (sections.flatMap Section.statements).foldlM Draft.add d = some d' ∧
      d'.root = d.root ++ sections.map Section.node := by
  induction sections generalizing d with
  | nil => exact ⟨d, by simp, by simp⟩
  | cons s sections ih =>
    simp only [List.mem_cons, forall_eq_or_imp] at proper
    have fresh : s.name ∉ d.root.map Prod.fst := by
      simp only [List.nodup_append, List.map_cons, List.mem_cons] at distinct
      exact fun mem => distinct.2.2 s.name mem s.name (.inl rfl) rfl
    -- The header opens a table at the end, and all values up to the next header go there.
    obtain ⟨d', here, root⟩ := foldlM_statements proper.1 fresh
    have distinct' : (d'.root.map Prod.fst ++ sections.map Section.name).Nodup := by
      simpa [root, Section.node] using distinct
    obtain ⟨d'', later, root'⟩ := ih proper.2 distinct'
    refine ⟨d'', ?_, by simp [root', root]⟩
    rw [List.flatMap_cons, List.foldlM_append]
    exact Option.bind_eq_some_iff.mpr ⟨d', here, later⟩

theorem finish_values (pairs : List (String × Scalar)) :
    finish (pairs.map fun (name, v) => (name, .value v.value)) =
      pairs.map fun (name, v) => (name, v.value) := by
  induction pairs with
  | nil => simp [finish]
  | cons pair pairs ih => simp [finish, Node.toToml, ih]

theorem finish_nodes (sections : List Section) :
    finish (sections.map Section.node) = sections.map Section.entry := by
  induction sections with
  | nil => simp [finish]
  | cons s sections ih =>
    simp [finish, Section.node, Section.nodes, Section.entry, Node.toToml, finish_values, ih]

theorem build_statements {sections : List Section} (proper : ∀ s ∈ sections, s.Proper)
    (distinct : (sections.map Section.name).Nodup) :
    build (sections.flatMap Section.statements) =
      some (.table (sections.map Section.entry)) := by
  obtain ⟨d, run, root⟩ := foldlM_sections proper (d := {}) (by simpa using distinct)
  simp [build, run, root, finish_nodes]

/-- A document begins with a header, if with anything. -/
theorem skipMark_sectionsText {sections : List Section} (written : sectionsText sections = .ok cs) :
    skipMark cs = cs := by
  cases sections using sectionsText.fun_cases with
  | case1 =>
    obtain rfl := Except.ok.inj written
    rfl
  | case2 s =>
    simp only [sectionsText, Section.text, bind_eq_ok] at written
    obtain ⟨_, -, done⟩ := written
    obtain rfl := Except.ok.inj done
    simp [skipMark]
  | case3 s rest some =>
    simp only [sectionsText, Section.text, bind_eq_ok] at written
    obtain ⟨_, ⟨_, -, here⟩, _, -, done⟩ := written
    obtain rfl := Except.ok.inj here
    obtain rfl := Except.ok.inj done
    simp [skipMark]

/-- A document is read as the sections that it was written for. -/
theorem parse_write {sections : List Section} (proper : ∀ s ∈ sections, s.Proper)
    (distinct : (sections.map Section.name).Nodup) {text : String}
    (written : write sections = .ok text) :
    parse text = some (.table (sections.map Section.entry)) := by
  simp only [write, bind_eq_ok] at written
  obtain ⟨cs, texts, done⟩ := written
  obtain rfl := Except.ok.inj done
  have read := (lines_sectionsText proper texts).readStatements_eq
  simp [parse, skipMark_sectionsText texts, read, build_statements proper distinct]

end SessionKit.Toml
