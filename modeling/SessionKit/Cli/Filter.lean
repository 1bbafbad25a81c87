import SessionKit.Cli.Directive

/-!
# Log filters

A filter is a text of directives between commas. Of the directives that fit an event the most
specific one counts, and of two that are equally specific the later one.
-/

namespace SessionKit.Cli

structure Filter where
  directives : List Directive
  deriving DecidableEq, Repr

namespace Filter

/-- The later of two directives wins unless it is less specific. -/
def stronger (found : Option Directive) (d : Directive) : Option Directive :=
  match found with
  | some best => if best.isAtMost d then some d else some best
  | none => some d

/-- The directive that counts for an event. -/
def deciding? (f : Filter) (e : Event) : Option Directive :=
  (f.directives.filter (·.fits e)).foldl stronger none

/-- No event passes that no directive fits. -/
def threshold (f : Filter) (e : Event) : Threshold := (f.deciding? e).bind Directive.threshold

/-- Whether an event passes. -/
def passes (f : Filter) (e : Event) : Bool := (f.threshold e).passes e.level

/-- What has been read of a filter: its directives, and those that were passed over. -/
structure Reading where
  directives : List Directive := []
  faults : List (String × Directive.Fault) := []
  /-- A directive with a torn piece, behind which nothing is read. -/
  torn : Option String := none

def Reading.add (r : Reading) (text : String) : Reading :=
  if r.torn.isSome then r
  else match Directive.parse text with
    | .ok d => { r with directives := r.directives ++ [d] }
    | .error .torn => { r with torn := some text }
    | .error fault => { r with faults := r.faults ++ [(text, fault)] }

/-- Only errors pass when there are no directives. -/
def Reading.filter (r : Reading) : Filter :=
  if r.directives = [] then { directives := [{ threshold := some .error }] }
  else { directives := r.directives }

def read (text : String) : Reading :=
  ((text.splitOn ",").filter (!·.isEmpty)).foldl Reading.add {}

/-- The names that the parts of this program begin with. -/
def ownParts : List String := ["kuta", "kuta_session", "kuta_crypto", "kuta_config"]

/-- The text of a filter with one level for this program and another for everything else. -/
def text (own others : String) : String :=
  ",".intercalate (ownParts.map (fun part => s!"{part}={own}") ++ [others])

end Filter
end SessionKit.Cli
