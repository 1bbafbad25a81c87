import SessionKit.Bytes
import SessionKit.Numeral
import SessionKit.Program

/-!
# Random bytes

Whatever is drawn at random is drawn by a program whose requests are the numbers of bytes it
wants. A source answers them from its state: it fills a request whole or fails it.
-/

namespace SessionKit

/-- A computation over random bytes. A request is the number of bytes wanted, and its answer is
that many bytes or the reason why there are none. -/
abbrev Draw (α : Type) := Program Nat (fun n => Except String (Vector UInt8 n)) α

/-- A source of random bytes over the states `σ`. It never serves more bytes than it says
remain. -/
structure Source (σ : Type) where
  fill : σ → (n : Nat) → Except String (Vector UInt8 n) × σ
  remaining : σ → Nat
  remaining_fill {s t : σ} {n : Nat} {v : Vector UInt8 n} :
    fill s n = (.ok v, t) → remaining t + n ≤ remaining s

/-- Answers every request of a draw from the source. -/
def Source.run {σ α : Type} (source : Source σ) (draw : Draw α) (s : σ) : α × σ :=
  Program.run (fun n t => source.fill t n) draw s

/-! ## Scripted sources -/

namespace Random

/-- What a source says that has too few bytes left. -/
def exhausted : String := "source exhausted"

/-- A reproducible sequence of bytes. -/
inductive Pattern where
  /-- The next byte, and what is added for the one after it. -/
  | counter (next step : UInt8)
  /-- The state of a linear congruential generator, below `2 ^ 31`. -/
  | congruential (state : Nat)
  /-- These bytes; zeros follow them. -/
  | bytes (rest : Bytes)
  deriving Repr

namespace Pattern

def next : Pattern → UInt8 × Pattern
  | counter b step => (b, counter (b + step) step)
  | congruential x =>
    let y := (x * 1103515245 + 12345) % Numeral.twoTo 31
    (UInt8.ofNat (y / Numeral.twoTo 16), congruential y)
  | bytes [] => (0, bytes [])
  | bytes (b :: rest) => (b, bytes rest)

/-- The first `n` bytes and the pattern that follows them. -/
def take : (n : Nat) → Pattern → Vector UInt8 n × Pattern
  | 0, p => (#v[], p)
  | n + 1, p =>
    let (v, q) := p.take n
    let (b, r) := q.next
    (v.push b, r)

end Pattern

/-- How many bytes an endless pattern is good for. -/
def endless : Nat := Numeral.twoTo 64

/-- A source that follows a script: a pattern of bytes, how many of them it has, and the number of
the first request, counted from zero, that fails whatever it asks for. -/
structure Scripted where
  pattern : Pattern := .counter 0 1
  left : Nat := endless
  failFrom : Option Nat := none
  failure : String := "scripted failure"
  /-- The lengths asked for so far, in order, failed requests included. -/
  requests : Array Nat := #[]

namespace Scripted

def fails (s : Scripted) : Bool :=
  match s.failFrom with
  | some k => k ≤ s.requests.size
  | none => false

def fill (s : Scripted) (n : Nat) : Except String (Vector UInt8 n) × Scripted :=
  let asked := { s with requests := s.requests.push n }
  if s.fails then (.error s.failure, asked)
  else if s.left < n then (.error exhausted, asked)
  else
    let (v, rest) := s.pattern.take n
    (.ok v, { asked with pattern := rest, left := s.left - n })

end Scripted

def scripted : Source Scripted where
  fill := Scripted.fill
  remaining := Scripted.left
  remaining_fill {s t n v} h := by
    unfold Scripted.fill at h
    by_cases hf : s.fails <;> simp only [hf, if_true, Bool.false_eq_true, if_false] at h
    · simp at h
    · by_cases hl : s.left < n <;> simp only [hl, if_true, if_false] at h
      · simp at h
      · simp only [Prod.mk.injEq] at h
        rw [← h.2]
        simp only
        omega

end Random
end SessionKit
