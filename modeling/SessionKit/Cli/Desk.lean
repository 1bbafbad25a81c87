import SessionKit.Cli.Action
import SessionKit.Files.Tree

/-!
# Runs in memory

A desk answers what a run asks of the system: it holds a file tree, the standard input, what has
been printed, a source of random bytes, and a clock that goes on as it is read.
-/

namespace SessionKit.Cli

structure Desk where
  tree : Files.Tree := {}
  /-- What is left of the standard input. -/
  input : String := ""
  output : String := ""
  errors : String := ""
  source : Random.Scripted := { pattern := .congruential 1 }
  /-- When the clock was started. -/
  start : Timestamp := .epoch
  /-- Nanoseconds since the start. -/
  elapsed : Nat := 0

namespace Desk

/-- The first line with its end, and the rest. -/
def cutLine : List Char → List Char × List Char
  | [] => ([], [])
  | '\n' :: rest => (['\n'], rest)
  | c :: rest =>
    let (line, others) := cutLine rest
    (c :: line, others)

/-- The desk a microsecond later. -/
def tick (d : Desk) : Desk := { d with elapsed := d.elapsed + 1000 }

def now (d : Desk) : Timestamp := (d.start.add? ⟨d.elapsed⟩).getD d.start

def answer : (r : Request) → Desk → Answer r × Desk
  | .file request, d =>
    let (x, tree) := d.tree.answer request
    (x, { d with tree })
  | .random count, d =>
    let (x, source) := Random.scripted.fill d.source count
    (x, { d with source })
  | .now, d => (d.tick.now, d.tick)
  | .instant, d => (d.elapsed, d)
  | .readLine, d =>
    let (line, rest) := cutLine d.input.toList
    (.ok (String.ofList line), { d with input := String.ofList rest })
  | .print text, d => ((), { d with output := d.output ++ text })
  | .printError text, d => ((), { d with errors := d.errors ++ text })

/-- Runs to the end. -/
def run {α : Type} (a : Action α) (d : Desk) : α × Desk := Program.run answer a d

end Desk
end SessionKit.Cli
