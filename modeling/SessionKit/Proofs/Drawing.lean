import SessionKit.Proofs.Selection

/-!
# Drawing identifiers

The batches that a draw asks for are one stream of bytes, and what is drawn are the first characters
that the stream selects, wherever one batch ends and the next one begins. As many batches are asked
for as hold enough bytes that select a character, and not one more; a draw fails only if the source
does, and then for the reason that the source gives.
-/

namespace SessionKit

/-! ## Requests of a program -/

namespace Program

variable {Request α β σ : Type} {Answer : Request → Type}
  {answer : (r : Request) → σ → Answer r × σ}

/-- The requests that a run makes, in their order. -/
def requests (answer : (r : Request) → σ → Answer r × σ) :
    Program Request Answer α → σ → List Request
  | done _, _ => []
  | ask r next, s => r :: (next (answer r s).1).requests answer (answer r s).2

theorem requests_bind_done (p : Program Request Answer α) (f : α → β) (s : σ) :
    (p.bind fun a => done (f a)).requests answer s = p.requests answer s := by
  induction p generalizing s with
  | done a => rfl
  | ask r next ih => simp [requests, ih]

theorem run_bind_done (p : Program Request Answer α) (f : α → β) (s : σ) :
    ((p.bind fun a => done (f a)).run answer s).1 = f (p.run answer s).1 := by
  simp [run_bind]

end Program

/-! ## Batch after batch -/

variable {σ : Type} {fill : (n : Nat) → σ → Except String (Vector UInt8 n) × σ}
  {b k n : Nat} {s t u : σ} {bs : Bytes}

/-- Asked for `b` bytes so many times in a row, the source gives these bytes. -/
inductive Gives (fill : (n : Nat) → σ → Except String (Vector UInt8 n) × σ) (b : Nat) :
    Nat → σ → Bytes → σ → Prop
  | nothing (s : σ) : Gives fill b 0 s [] s
  | batch {k : Nat} {s t u : σ} {v : Vector UInt8 b} {bs : Bytes}
      (given : fill b s = (.ok v, t)) (more : Gives fill b k t bs u) :
      Gives fill b (k + 1) s (v.toList ++ bs) u

namespace Source

variable {source : Source σ} {ahead : σ → Bytes}

/-- A source as what answers the requests of a draw. -/
def answer (source : Source σ) (n : Nat) (s : σ) : Except String (Vector UInt8 n) × σ :=
  source.fill s n

/-- Every state of the source stands for a finite stream of bytes, which is served once: whoever
asks for more than is left is refused. -/
structure Streams (source : Source σ) (ahead : σ → Bytes) : Prop where
  serves {s : σ} {n : Nat} : n ≤ (ahead s).length →
    ∃ v t, source.fill s n = (.ok v, t) ∧ v.toList = (ahead s).take n ∧ ahead t = (ahead s).drop n
  refuses {s : σ} {n : Nat} : (ahead s).length < n →
    ∃ reason t, source.fill s n = (.error reason, t)

theorem Streams.gives (streams : source.Streams ahead) (whole : k * b ≤ (ahead s).length) :
    ∃ t, Gives source.answer b k s ((ahead s).take (k * b)) t ∧
      ahead t = (ahead s).drop (k * b) := by
  induction k generalizing s with
  | zero => exact ⟨s, by simpa using Gives.nothing s, by simp⟩
  | succ k ih =>
    have size : (k + 1) * b = b + k * b := by rw [Nat.succ_mul, Nat.add_comm]
    rw [size] at whole ⊢
    -- The first batch is cut from the front, and the others from what it leaves.
    obtain ⟨v, t, given, first, left⟩ := streams.serves (Nat.le_of_add_right_le whole)
    obtain ⟨u, more, left'⟩ := ih (s := t) (by rw [left, List.length_drop]; omega)
    refine ⟨u, ?_, by rw [left', left, List.drop_drop]⟩
    rw [List.take_add, ← first, ← left]
    exact .batch given more

/-- A source has no more batches than bytes. -/
theorem le_remaining_of_gives (pos : 1 ≤ b) (gives : Gives source.answer b k s bs t) :
    k ≤ source.remaining s := by
  induction gives with
  | nothing s => exact Nat.zero_le _
  | batch given more ih =>
    have := source.remaining_fill given
    omega

end Source

/-- Every state stands for a stream of bytes without end, which is served in its order. -/
def Endless (fill : (n : Nat) → σ → Except String (Vector UInt8 n) × σ) (ahead : σ → Nat → UInt8) :
    Prop :=
  ∀ n s, ∃ v t, fill n s = (.ok v, t) ∧ v.toList = (List.range n).map (ahead s) ∧
    ∀ i, ahead t i = ahead s (n + i)

theorem Endless.gives {ahead : σ → Nat → UInt8} (endless : Endless fill ahead) (b k : Nat) (s : σ) :
    ∃ t, Gives fill b k s ((List.range (k * b)).map (ahead s)) t := by
  induction k generalizing s with
  | zero => exact ⟨s, by simpa using Gives.nothing s⟩
  | succ k ih =>
    have size : (k + 1) * b = b + k * b := by rw [Nat.succ_mul, Nat.add_comm]
    obtain ⟨v, t, given, first, later⟩ := endless b s
    obtain ⟨u, more⟩ := ih t
    refine ⟨u, ?_⟩
    rw [size, List.range_add, List.map_append, ← first, List.map_map]
    simp only [Function.comp_def, ← later]
    exact .batch given more

namespace Identifier

variable {a : Alphabet} {fuel need : Nat} {v : Vector UInt8 b} {reason : String}

theorem Alphabet.selected_append (a : Alphabet) (bs bs' : Bytes) :
    a.selected (bs ++ bs') = a.selected bs ++ a.selected bs' :=
  List.filterMap_append

theorem Alphabet.mem_characters_of_mem_selected {c : Char} (mem : c ∈ a.selected bs) :
    c ∈ a.characters := by
  obtain ⟨b, _, selects⟩ := List.mem_filterMap.mp mem
  exact List.mem_of_getElem? selects

theorem Alphabet.batch_pos (a : Alphabet) (length : Nat) : 1 ≤ a.batch length :=
  Nat.le_max_left 1 _

theorem drawnLength_pos (length : Option Nat) : 0 < drawnLength length := by
  unfold drawnLength
  split
  · exact Nat.succ_pos _
  · exact Nat.le_of_ble_eq_true rfl

/-! ## One batch -/

/-- A batch that selects enough characters is the last one. -/
theorem collect_of_last (given : fill b s = (.ok v, t))
    (enough : need ≤ (a.selected v.toList).length) :
    ((collect a b (fuel + 1) need).run fill s).1 = .ok ((a.selected v.toList).take need) ∧
      (collect a b (fuel + 1) need).requests fill s = [b] := by
  unfold Alphabet.selected at enough
  simp [collect, Program.requests, Alphabet.selected, given, Nat.not_lt.mpr enough]

/-- What another batch selects comes before all that is drawn later. -/
theorem collect_of_more (given : fill b s = (.ok v, t))
    (short : (a.selected v.toList).length < need) :
    ((collect a b (fuel + 1) need).run fill s).1 =
        ((collect a b fuel (need - (a.selected v.toList).length)).run fill t).1.map
          (a.selected v.toList ++ ·) ∧
      (collect a b (fuel + 1) need).requests fill s =
        b :: (collect a b fuel (need - (a.selected v.toList).length)).requests fill t := by
  unfold Alphabet.selected at short
  have all : (v.toList.filterMap a.select?).take need = v.toList.filterMap a.select? :=
    List.take_of_length_le (Nat.le_of_lt short)
  simp [collect, Program.requests, Program.run_bind_done, Program.requests_bind_done,
    Alphabet.selected, given, short, all, Nat.min_eq_right (Nat.le_of_lt short)]

theorem collect_of_failure (failed : fill b s = (.error reason, t)) :
    ((collect a b (fuel + 1) need).run fill s).1 = .error (.random reason) := by
  simp [collect, failed]

/-! ## All batches -/

/-- The characters are the first that the whole stream selects. -/
theorem collect_of_enough (gives : Gives fill b k s bs t) (within : k ≤ fuel) (pos : 0 < need)
    (enough : need ≤ (a.selected bs).length) :
    ((collect a b fuel need).run fill s).1 = .ok ((a.selected bs).take need) := by
  induction gives generalizing fuel need with
  | nothing s => exact absurd enough (Nat.not_le.mpr pos)
  | @batch k s t u v bs given more ih =>
    cases fuel with
    | zero => exact absurd within (Nat.not_succ_le_zero k)
    | succ fuel =>
      simp only [a.selected_append, List.length_append] at enough ⊢
      by_cases last : need ≤ (a.selected v.toList).length
      -- What the last batch selects beyond the need is dropped with the rest of the stream.
      · rw [(collect_of_last given last).1, List.take_append_of_le_length last]
      · have short : (a.selected v.toList).length < need := Nat.lt_of_not_le last
        rw [(collect_of_more given short).1,
          ih (Nat.le_of_succ_le_succ within) (by omega) (by omega), List.take_append,
          List.take_of_length_le (Nat.le_of_lt short)]
        rfl

/-- The numbers of batches that hold enough bytes that select a character. -/
def Alphabet.sufficient (a : Alphabet) (b need : Nat) (bs : Bytes) : Set Nat :=
  {j | need ≤ (a.selected (bs.take (j * b))).length}

theorem not_mem_sufficient_zero (pos : 0 < need) : 0 ∉ a.sufficient b need bs := by
  simpa [Alphabet.sufficient, Alphabet.selected] using Nat.ne_of_gt pos

theorem mem_sufficient_succ {j : Nat} :
    j + 1 ∈ a.sufficient b need (v.toList ++ bs) ↔
      need ≤ (a.selected v.toList).length + (a.selected (bs.take (j * b))).length := by
  have further : (v.toList ++ bs).take ((j + 1) * b) = v.toList ++ bs.take (j * b) := by
    simp [List.take_append, Nat.succ_mul, List.take_of_length_le]
  simp [Alphabet.sufficient, further, a.selected_append]

/-- No more batches are asked for than hold enough bytes that select a character. -/
theorem requests_of_enough (gives : Gives fill b k s bs t) (within : k ≤ fuel) (pos : 0 < need)
    (enough : need ≤ (a.selected bs).length) :
    ∃ j, IsLeast (a.sufficient b need bs) j ∧
      (collect a b fuel need).requests fill s = List.replicate j b := by
  induction gives generalizing fuel need with
  | nothing s => exact absurd enough (Nat.not_le.mpr pos)
  | @batch k s t u v bs given more ih =>
    cases fuel with
    | zero => exact absurd within (Nat.not_succ_le_zero k)
    | succ fuel =>
      simp only [a.selected_append, List.length_append] at enough
      by_cases last : need ≤ (a.selected v.toList).length
      · refine ⟨1, ⟨?_, ?_⟩, (collect_of_last given last).2⟩
        · exact mem_sufficient_succ.mpr (Nat.le_add_right_of_le last)
        · intro j mem
          exact Nat.pos_of_ne_zero fun zero => not_mem_sufficient_zero pos (zero ▸ mem)
      · have short : (a.selected v.toList).length < need := Nat.lt_of_not_le last
        -- The others are the fewest for what is still needed, so that this one is not one too many.
        obtain ⟨j, ⟨mem, least⟩, requests⟩ :=
          ih (Nat.le_of_succ_le_succ within) (Nat.sub_pos_of_lt short) (by omega)
        refine ⟨j + 1, ⟨?_, ?_⟩, ?_⟩
        · exact mem_sufficient_succ.mpr (Nat.sub_le_iff_le_add'.mp mem)
        · intro i mem
          cases i with
          | zero => exact absurd mem (not_mem_sufficient_zero pos)
          | succ i =>
            have fewer := Nat.sub_le_iff_le_add'.mpr (mem_sufficient_succ.mp mem)
            exact Nat.succ_le_succ (least fewer)
        · rw [(collect_of_more given short).2, requests]
          rfl

/-- Where the batches run out before enough is selected, the source's own reason is passed on. -/
theorem collect_of_short (gives : Gives fill b k s bs t) (failed : fill b t = (.error reason, u))
    (within : k < fuel) (short : (a.selected bs).length < need) :
    ((collect a b fuel need).run fill s).1 = .error (.random reason) := by
  induction gives generalizing fuel need with
  | nothing s =>
    cases fuel with
    | zero => exact absurd within (Nat.not_lt_zero 0)
    | succ fuel => exact collect_of_failure failed
  | @batch k s t u v bs given more ih =>
    cases fuel with
    | zero => exact absurd within (Nat.not_lt_zero _)
    | succ fuel =>
      simp only [a.selected_append, List.length_append] at short
      rw [(collect_of_more given (by omega)).1,
        ih failed (Nat.lt_of_succ_lt_succ within) (by omega)]
      rfl

/-! ## Finite streams -/

theorem draw_run (a : Alphabet) (fuel : Nat) (length : Option Nat) (s : σ) :
    ((draw a fuel length).run fill s).1 =
      ((collect a (a.batch (drawnLength length)) fuel (drawnLength length)).run fill s).1.map
        String.ofList :=
  Program.run_bind_done _ _ s

/-- The lengths that a draw asks its source for, in their order. -/
def fills (source : Source σ) (a : Alphabet) (length : Option Nat) (s : σ) : List Nat :=
  (draw a (source.remaining s + 1) length).requests source.answer s

theorem fills_eq (source : Source σ) (a : Alphabet) (length : Option Nat) (s : σ) :
    fills source a length s =
      (collect a (a.batch (drawnLength length)) (source.remaining s + 1)
        (drawnLength length)).requests source.answer s :=
  Program.requests_bind_done _ _ s

theorem drawFrom_eq (source : Source σ) (a : Alphabet) (length : Option Nat) (s : σ) :
    (drawFrom source a length s).1 =
      ((collect a (a.batch (drawnLength length)) (source.remaining s + 1)
        (drawnLength length)).run source.answer s).1.map String.ofList :=
  draw_run a (source.remaining s + 1) length s

/-- More of a stream changes nothing about the first characters, if there are enough of them. -/
theorem take_selected_of_begins {bs bs' : Bytes} (leads : bs <+: bs')
    (enough : need ≤ (a.selected bs).length) :
    (a.selected bs').take need = (a.selected bs).take need := by
  obtain ⟨rest, rfl⟩ := leads
  rw [a.selected_append, List.take_append_of_le_length enough]

/-- Batches that are not there do not count towards the fewest that are sufficient. -/
theorem isLeast_sufficient_of_take {j : Nat} (enough : need ≤ (a.selected (bs.take (k * b))).length)
    (least : IsLeast (a.sufficient b need (bs.take (k * b))) j) :
    IsLeast (a.sufficient b need bs) j := by
  have same {i : Nat} (within : i ≤ k) :
      i ∈ a.sufficient b need (bs.take (k * b)) ↔ i ∈ a.sufficient b need bs := by
    simp [Alphabet.sufficient, List.take_take, Nat.min_eq_left within]
  have all : k ∈ a.sufficient b need (bs.take (k * b)) := by
    simpa [Alphabet.sufficient, List.take_take] using enough
  have within : j ≤ k := least.2 all
  refine ⟨(same within).mp least.1, ?_⟩
  intro i mem
  by_cases fewer : i ≤ k
  · exact least.2 ((same fewer).mpr mem)
  · omega

variable {source : Source σ} {ahead : σ → Bytes} {length : Option Nat}

/-- The whole batches of `b` bytes that a stream has. -/
def wholeBatches (b : Nat) (bs : Bytes) : Bytes := bs.take (bs.length / b * b)

/-- The source gives its whole batches and then refuses. -/
theorem exists_gives_wholeBatches (streams : source.Streams ahead) (pos : 1 ≤ b) (s : σ) :
    ∃ t reason u, Gives source.answer b ((ahead s).length / b) s (wholeBatches b (ahead s)) t ∧
      source.answer b t = (.error reason, u) := by
  obtain ⟨t, gives, left⟩ := streams.gives (Nat.div_mul_le_self (ahead s).length b)
  have few : (ahead t).length < b := by
    rw [left, List.length_drop, Nat.mul_comm, ← Nat.mod_eq_sub]
    exact Nat.mod_lt _ pos
  obtain ⟨reason, u, refused⟩ := streams.refuses few
  exact ⟨t, reason, u, gives, refused⟩

theorem drawFrom_of_enough (streams : source.Streams ahead) (s : σ)
    (enough : drawnLength length ≤
      (a.selected (wholeBatches (a.batch (drawnLength length)) (ahead s))).length) :
    (drawFrom source a length s).1 =
        .ok (String.ofList ((a.selected (ahead s)).take (drawnLength length))) ∧
      ∃ k, IsLeast (a.sufficient (a.batch (drawnLength length)) (drawnLength length) (ahead s)) k ∧
        fills source a length s = List.replicate k (a.batch (drawnLength length)) := by
  have pos := drawnLength_pos length
  obtain ⟨t, _, _, gives, _⟩ := exists_gives_wholeBatches streams (a.batch_pos _) s
  have within := Nat.le_succ_of_le (Source.le_remaining_of_gives (a.batch_pos _) gives)
  constructor
  · rw [drawFrom_eq, collect_of_enough gives within pos enough,
      take_selected_of_begins (List.take_prefix _ _) enough]
    rfl
  · obtain ⟨k, least, requests⟩ := requests_of_enough gives within pos enough
    exact ⟨k, isLeast_sufficient_of_take enough least, (fills_eq source a length s).trans requests⟩

theorem drawFrom_of_short (streams : source.Streams ahead) (s : σ)
    (short : (a.selected (wholeBatches (a.batch (drawnLength length)) (ahead s))).length <
      drawnLength length) :
    ∃ t reason, Gives source.answer (a.batch (drawnLength length))
        ((ahead s).length / a.batch (drawnLength length)) s
        (wholeBatches (a.batch (drawnLength length)) (ahead s)) t ∧
      (source.answer (a.batch (drawnLength length)) t).1 = .error reason ∧
      (drawFrom source a length s).1 = .error (.random reason) := by
  obtain ⟨t, reason, u, gives, refused⟩ := exists_gives_wholeBatches streams (a.batch_pos _) s
  have within := Nat.lt_succ_of_le (Source.le_remaining_of_gives (a.batch_pos _) gives)
  refine ⟨t, reason, gives, congrArg Prod.fst refused, ?_⟩
  rw [drawFrom_eq, collect_of_short gives refused within short]
  rfl

/-! ## Endless streams -/

theorem range_begins {f : Nat → UInt8} {m n : Nat} (within : m ≤ n) :
    (List.range m).map f <+: (List.range n).map f := by
  obtain ⟨more, rfl⟩ := Nat.exists_eq_add_of_le within
  rw [List.range_add, List.map_append]
  exact List.prefix_append _ _

theorem length_selected_mono {bs bs' : Bytes} (leads : bs <+: bs') :
    (a.selected bs).length ≤ (a.selected bs').length := by
  obtain ⟨rest, rfl⟩ := leads
  simp [a.selected_append]

/-- A stream in which bytes that select a character never cease selects any number of them. -/
theorem exists_enough_of_often {f : Nat → UInt8}
    (often : ∀ m, ∃ i, m ≤ i ∧ (a.select? (f i)).isSome) (need : Nat) :
    ∃ m, need ≤ (a.selected ((List.range m).map f)).length := by
  induction need with
  | zero => exact ⟨0, Nat.zero_le _⟩
  | succ need ih =>
    obtain ⟨m, enough⟩ := ih
    obtain ⟨i, later, selects⟩ := often m
    obtain ⟨c, selects⟩ := Option.isSome_iff_exists.mp selects
    refine ⟨i + 1, ?_⟩
    have before := length_selected_mono (a := a) (range_begins (f := f) later)
    have one : a.selected [f i] = [c] := by simp [Alphabet.selected, selects]
    rw [List.range_succ, List.map_append, a.selected_append]
    simp only [List.map_cons, List.map_nil, one, List.length_append, List.length_cons,
      List.length_nil]
    omega

/-- However many batches are allowed, from some number on a draw takes the same characters. -/
theorem draw_of_endless {ahead : σ → Nat → UInt8} (endless : Endless fill ahead) (s : σ)
    (often : ∀ m, ∃ i, m ≤ i ∧ (a.select? (ahead s i)).isSome) :
    ∃ id : String, ∃ batches,
      (∀ fuel, batches ≤ fuel → ((draw a fuel length).run fill s).1 = .ok id) ∧
      id.length = drawnLength length ∧
      ∀ m, drawnLength length ≤ (a.selected ((List.range m).map (ahead s))).length →
        id.toList = (a.selected ((List.range m).map (ahead s))).take (drawnLength length) := by
  obtain ⟨m, enough⟩ := exists_enough_of_often often (drawnLength length)
  -- As many batches as there are bytes needed hold all of these bytes.
  obtain ⟨t, gives⟩ := endless.gives (a.batch (drawnLength length)) m s
  have longer : m ≤ m * a.batch (drawnLength length) := Nat.le_mul_of_pos_right m (a.batch_pos _)
  have leads := range_begins (f := ahead s) longer
  have enough' := Nat.le_trans enough (length_selected_mono leads)
  refine ⟨String.ofList ((a.selected ((List.range m).map (ahead s))).take (drawnLength length)),
    m, ?_, ?_, ?_⟩
  · intro fuel within
    rw [draw_run, collect_of_enough gives within (drawnLength_pos length) enough',
      take_selected_of_begins leads enough]
    rfl
  · simpa using enough
  · intro n enoughN
    rw [String.toList_ofList]
    rcases Nat.le_total m n with within | within
    · exact (take_selected_of_begins (range_begins within) enough).symm
    · exact take_selected_of_begins (range_begins within) enoughN

/-! ## The characters that are drawn -/

theorem drawnLength_eq (length : Option Nat) :
    drawnLength length = match length with
      | none | some 0 => 22
      | some n => n := by
  rcases length with _ | _ | n <;> rfl

/-- An identifier has the length that is asked for, or 22 characters, and a byte selects the
character at its place once it is masked. The mask has as many ones as the last place needs. From a
source of finitely many bytes an identifier is drawn if and only if the whole batches that it has
select enough characters. It is then made of the first characters that the stream selects, and takes
the fewest batches that hold them; otherwise the source's refusal is passed on. From an endless
stream in which bytes that select a character never cease, the first characters are drawn as soon as
enough batches are allowed. -/
theorem draws_first_selected (a : Alphabet) (length : Option Nat) :
    let size := drawnLength length
    let b := a.batch size
    (size = match length with
      | none | some 0 => 22
      | some n => n) ∧
    IsLeast {m | (∃ k, m = 2 ^ k - 1) ∧ a.characters.length - 1 ≤ m} a.mask ∧
    (∀ c, a.select? c = a.characters[c.toNat &&& a.mask]?) ∧
    (∀ {σ : Type} (source : Source σ) (ahead : σ → Bytes), source.Streams ahead → ∀ s,
      ((∃ id, (drawFrom source a length s).1 = .ok id) ↔
        size ≤ (a.selected (wholeBatches b (ahead s))).length) ∧
      (∀ id, (drawFrom source a length s).1 = .ok id →
        id.toList = (a.selected (ahead s)).take size ∧ id.length = size ∧
        (∀ c ∈ id.toList, c ∈ a.characters) ∧
        ∃ k, IsLeast {k | size ≤ (a.selected ((ahead s).take (k * b))).length} k ∧
          fills source a length s = List.replicate k b) ∧
      ∀ e, (drawFrom source a length s).1 = .error e →
        ∃ t reason, Gives source.answer b ((ahead s).length / b) s (wholeBatches b (ahead s)) t ∧
          (source.answer b t).1 = .error reason ∧ e = .random reason) ∧
    ∀ {σ : Type} (fill : (n : Nat) → σ → Except String (Vector UInt8 n) × σ)
      (ahead : σ → Nat → UInt8), Endless fill ahead →
      ∀ s, (∀ m, ∃ i, m ≤ i ∧ (a.select? (ahead s i)).isSome) →
        ∃ id : String, ∃ batches,
          (∀ fuel, batches ≤ fuel → ((draw a fuel length).run fill s).1 = .ok id) ∧
          id.length = size ∧
          ∀ m, size ≤ (a.selected ((List.range m).map (ahead s))).length →
            id.toList = (a.selected ((List.range m).map (ahead s))).take size := by
  intro size b
  refine ⟨drawnLength_eq length, isLeast_maskOf a.two_le_size, fun _ => rfl, ?_,
    fun fill ahead endless s often => draw_of_endless endless s often⟩
  intro σ source ahead streams s
  by_cases enough : size ≤ (a.selected (wholeBatches b (ahead s))).length
  · obtain ⟨drawn, asked⟩ := drawFrom_of_enough streams s enough
    refine ⟨iff_of_true ⟨_, drawn⟩ enough, ?_, ?_⟩
    · intro id ok
      obtain rfl := Except.ok.inj (drawn.symm.trans ok)
      have all := Nat.le_trans enough (length_selected_mono (List.take_prefix _ _))
      refine ⟨String.toList_ofList, ?_, ?_, asked⟩
      · rw [String.length_ofList, List.length_take_of_le all]
      · intro c mem
        rw [String.toList_ofList] at mem
        exact a.mem_characters_of_mem_selected (List.mem_of_mem_take mem)
    · intro e failed
      rw [drawn] at failed
      cases failed
  · obtain ⟨t, reason, gives, refused, failed⟩ :=
      drawFrom_of_short streams s (Nat.lt_of_not_le enough)
    refine ⟨iff_of_false ?_ enough, ?_, ?_⟩
    · rintro ⟨id, ok⟩
      rw [failed] at ok
      cases ok
    · intro id ok
      rw [failed] at ok
      cases ok
    · intro e failed'
      rw [failed] at failed'
      exact ⟨t, reason, gives, refused, (Except.error.inj failed').symm⟩

/-- A source that has the bytes of its state. -/
def tape : Source Bytes where
  fill bs n :=
    if enough : n ≤ bs.length then
      (.ok ⟨(bs.take n).toArray, by simpa using enough⟩, bs.drop n)
    else (.error Random.exhausted, bs)
  remaining := List.length
  remaining_fill {s t n v} filled := by
    split at filled
    next enough =>
      obtain ⟨_, rfl⟩ := Prod.mk.inj filled
      simp
      omega
    next => simp at filled

theorem streams_tape : tape.Streams id where
  serves {s n} enough := ⟨_, _, dif_pos enough, by simp, rfl⟩
  refuses {s n} short := ⟨_, _, dif_neg (Nat.not_le.mpr short)⟩

theorem selected_zeros (n : Nat) :
    defaultAlphabet.selected (List.replicate n 0) = List.replicate n 'A' := by
  have first : defaultAlphabet.select? 0 = some 'A' := by decide +kernel
  simp [Alphabet.selected, List.filterMap_replicate_of_some first]

/-- Zeros select the first letter, and there are enough of them in as many batches as characters. -/
theorem draws_first_selected_sample :
    (drawFrom tape defaultAlphabet none
      (List.replicate (22 * defaultAlphabet.batch 22) 0)).1 = .ok "AAAAAAAAAAAAAAAAAAAAAA" ∧
    (drawFrom tape defaultAlphabet (some 5)
      (List.replicate (5 * defaultAlphabet.batch 5) 0)).1 = .ok "AAAAA" ∧
    ∃ batches, ∀ fuel, batches ≤ fuel →
      ((draw defaultAlphabet fuel (some 5)).run (fun n s => (.ok (Vector.replicate n 0), s)) ()).1 =
        .ok "AAAAA" := by
  have only {id : String} {need n : Nat} (enough : need ≤ n)
      (first : id.toList = (defaultAlphabet.selected (List.replicate n 0)).take need) :
      id = String.ofList (List.replicate need 'A') := by
    apply String.toList_inj.mp
    rw [first, selected_zeros, List.take_replicate, Nat.min_eq_left enough, String.toList_ofList]
  have finite (length : Option Nat) : (drawFrom tape defaultAlphabet length
      (List.replicate (drawnLength length * defaultAlphabet.batch (drawnLength length)) 0)).1 =
        .ok (String.ofList (List.replicate (drawnLength length) 'A')) := by
    have pos := defaultAlphabet.batch_pos (drawnLength length)
    have many := Nat.le_mul_of_pos_right (drawnLength length) pos
    obtain ⟨ok, drawn, _⟩ := (draws_first_selected defaultAlphabet length).2.2.2.1 tape id
      streams_tape
      (List.replicate (drawnLength length * defaultAlphabet.batch (drawnLength length)) 0)
    obtain ⟨id, ok⟩ := ok.mpr (by
      simpa [wholeBatches, selected_zeros, Nat.mul_div_cancel _ pos] using many)
    rw [ok, only many (drawn id ok).1]
  refine ⟨finite none, finite (some 5), ?_⟩
  have zero : Endless (fun n (s : Unit) => (.ok (Vector.replicate n 0), s)) (fun _ _ => 0) :=
    fun n s => ⟨Vector.replicate n 0, s, rfl, by simp, fun _ => rfl⟩
  obtain ⟨id, batches, drawn, _, first⟩ :=
    (draws_first_selected defaultAlphabet (some 5)).2.2.2.2 _ _ zero ()
      (fun m => ⟨m, Nat.le_refl m, by decide +kernel⟩)
  have zeros : (List.range 5).map (fun _ => (0 : UInt8)) = List.replicate 5 0 := rfl
  have made : id = "AAAAA" := by
    refine only (Nat.le_refl 5) (first 5 ?_)
    rw [zeros, selected_zeros]
    exact Nat.le_refl 5
  exact ⟨batches, fun fuel within => made ▸ drawn fuel within⟩

end Identifier
end SessionKit
