import SessionKit.Proofs.Traffic

/-!
# One operation after another

Operations of a manager that run from their start to their end, over a storage and a cache in memory
and a source of random bytes. What two managers do in such a sequence is compared by relating the
runs of two programs over two benches.
-/

namespace SessionKit.Sequence

open Manager (Request Answer Order Action Surroundings)
open Traffic (World)

/-! ## Runs -/

/-- What an operation works on. -/
structure Bench (σ : Type) extends World where
  source : σ
  /-- How often the cache was called. -/
  ticks : Nat := 0

/-- What a sequence depends on besides. The cache has a clock of its own, and chooses which entry
goes when it is full; both are open at each of its calls. -/
structure Stage (σ : Type) where
  source : Source σ
  instant : Nat → Cache.Instant
  victim : Nat → Nat

/-- An operation, and the time at which it takes place. -/
structure Occasion where
  order : Order
  now : Timestamp

variable {σ α β γ δ : Type}

/-- An empty storage, an empty cache and a source that has yet to be drawn from. -/
def Bench.fresh (settings : Cache.Settings) (source : σ) : Bench σ :=
  { cache := .new settings, source }

namespace Stage

variable (g : Stage σ) (now : Timestamp)

def surroundings : Surroundings (StateM (Bench σ)) where
  now := pure now
  token n b :=
    let (x, source) := g.source.run (Token.drawPair n) b.source
    (x, { b with source })
  identifier alphabet n b :=
    let (x, source) := Identifier.drawFrom g.source alphabet (some n) b.source
    (x, { b with source })
  storage call b :=
    ((b.storage.call now call).answer, { b with storage := (b.storage.call now call).state })
  cache call b :=
    let reply := b.cache.call (g.instant b.ticks) (g.victim b.ticks) call
    (reply.answer, { b with cache := reply.state, ticks := b.ticks + 1 })
  generation b := (b.generation, b)
  setGeneration generation b := ((), { b with generation })
  log _ := pure ()

def answer (r : Request) (b : Bench σ) : Answer r × Bench σ :=
  ((g.surroundings now).answer r).run b

/-- Runs an operation. -/
def perform (m : Manager) (o : Order) (b : Bench σ) : o.Result × Bench σ :=
  (o.program m).run (g.answer now) b

/-- What the operations come to, and which sessions are stored after each of them. -/
def observe (m : Manager) : List Occasion → Bench σ → List (((o : Order) × o.Result) × List Session)
  | [], _ => []
  | ⟨o, now⟩ :: rest, b =>
    let (x, c) := g.perform now m o b
    (⟨o, x⟩, c.storage.sessions) :: observe m rest c

end Stage

/-! ## Answers -/

section Answers

variable {g : Stage σ} {now : Timestamp} {b : Bench σ}

/-- A bench after a call to its storage. -/
def Bench.called (b : Bench σ) (now : Timestamp) (call : Storage.Call) : Bench σ :=
  { b with storage := (b.storage.call now call).state }

theorem answer_now : g.answer now .now b = (now, b) := rfl

theorem answer_token {n : Nat} : g.answer now (.token n) b =
    ((g.source.run (Token.drawPair n) b.source).1,
      { b with source := (g.source.run (Token.drawPair n) b.source).2 }) := rfl

theorem answer_identifier {a : Identifier.Alphabet} {n : Nat} :
    g.answer now (.identifier a n) b =
      ((Identifier.drawFrom g.source a (some n) b.source).1,
        { b with source := (Identifier.drawFrom g.source a (some n) b.source).2 }) := rfl

theorem answer_store {call : Storage.Call} :
    g.answer now (.store call) b = ((b.storage.call now call).answer, b.called now call) := rfl

theorem answer_lookUp {k : String} : g.answer now (.lookUp k) b =
    ((b.cache.get (g.instant b.ticks) k).answer,
      { b with cache := (b.cache.get (g.instant b.ticks) k).state, ticks := b.ticks + 1 }) := rfl

theorem answer_fill {n : UInt64} {k : String} {s : Session} : g.answer now (.fill n k s) b =
    if b.generation = n then
      (.done, { b with
        cache := (b.cache.set (g.instant b.ticks) (g.victim b.ticks) k s).state
        ticks := b.ticks + 1 })
    else (.outdated, b) := by
  show StateT.run (ite (b.generation = n) _ _ : StateM (Bench σ) Manager.Filled) b = _
  split
  · rfl
  · rfl

theorem answer_invalidate {k : String} : g.answer now (.invalidate k) b =
    ((b.cache.delete k).answer, { b with
      generation := b.generation + 1
      cache := (b.cache.delete k).state
      ticks := b.ticks + 1 }) := rfl

theorem answer_invalidateAll : g.answer now .invalidateAll b =
    (.ok (), { b with
      generation := b.generation + 1
      cache := b.cache.clear.state
      ticks := b.ticks + 1 }) := rfl

end Answers

/-! ## Programs side by side -/

section Relates

variable {g : Stage σ} {now : Timestamp} {b b' : Bench σ}

/-- One program over one bench and another over another come to related ends. -/
def Relates (g : Stage σ) (now : Timestamp) (p : Action α) (q : Action β)
    (post : α → β → Bench σ → Bench σ → Prop) (b b' : Bench σ) : Prop :=
  post (p.run (g.answer now) b).1 (q.run (g.answer now) b').1
    (p.run (g.answer now) b).2 (q.run (g.answer now) b').2

variable {post post' : α → β → Bench σ → Bench σ → Prop}

theorem relates_ask {r r' : Request} {p : Answer r → Action α} {q : Answer r' → Action β} :
    Relates g now (.ask r p) (.ask r' q) post b b' ↔
      Relates g now (p (g.answer now r b).1) (q (g.answer now r' b').1) post
        (g.answer now r b).2 (g.answer now r' b').2 := Iff.rfl

theorem relates_ask_left {r : Request} {p : Answer r → Action α} {q : Action β} :
    Relates g now (.ask r p) q post b b' ↔
      Relates g now (p (g.answer now r b).1) q post (g.answer now r b).2 b' := Iff.rfl

theorem relates_ask_right {r : Request} {p : Action α} {q : Answer r → Action β} :
    Relates g now p (.ask r q) post b b' ↔
      Relates g now p (q (g.answer now r b').1) post b (g.answer now r b').2 := Iff.rfl

theorem relates_mono (h : ∀ x y c c', post x y c c' → post' x y c c') {p : Action α}
    {q : Action β} (relates : Relates g now p q post b b') : Relates g now p q post' b b' :=
  h _ _ _ _ relates

theorem relates_bind {p : Action α} {q : Action β} {f : α → Action γ} {f' : β → Action δ}
    {post : γ → δ → Bench σ → Bench σ → Prop} :
    Relates g now (p.bind f) (q.bind f') post b b' ↔
      Relates g now p q (fun x y => Relates g now (f x) (f' y) post) b b' := by
  simp only [Relates, Program.run_bind]

/-- Programs that go on with results that are related. -/
theorem relates_bind_of {p : Action α} {q : Action β} {f : α → Action γ} {f' : β → Action δ}
    {post' : γ → δ → Bench σ → Bench σ → Prop} (relates : Relates g now p q post b b')
    (next : ∀ x y c c', post x y c c' → Relates g now (f x) (f' y) post' c c') :
    Relates g now (p.bind f) (q.bind f') post' b b' :=
  relates_bind.mpr (relates_mono next relates)

/-- A program whose first part the other one does without. -/
theorem relates_bind_left {p : Action α} {f : α → Action γ} {q : Action δ}
    {mid : α → Unit → Bench σ → Bench σ → Prop} {post' : γ → δ → Bench σ → Bench σ → Prop}
    (relates : Relates g now p (.done ()) mid b b')
    (next : ∀ x c c', mid x () c c' → Relates g now (f x) q post' c c') :
    Relates g now (p.bind f) q post' b b' := by
  -- The other program does nothing first.
  show Relates g now (p.bind f) (Program.bind (.done ()) fun _ => q) post' b b'
  exact relates_bind_of relates fun x _ => next x

/-- What is logged does not matter. -/
theorem relates_log {level level' : Level} {message message' : String}
    {fields fields' : List (String × SessionKit.Event.Value)} {p : Unit → Action α}
    {q : Unit → Action β} (h : Relates g now (p ()) (q ()) post b b') :
    Relates g now ((Manager.log level message fields).bind p)
      ((Manager.log level' message' fields').bind q) post b b' := h

end Relates

end SessionKit.Sequence
