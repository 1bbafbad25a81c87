import SessionKit.Config.Discovery

/-!
# Styles

A text is shown in a style by control sequences of the terminal around it. Whether there are any
depends on where the text goes and on what the environment says.
-/

namespace SessionKit.Cli

inductive Style where
  | faint
  | slanted
  | red
  | green
  | yellow
  | blue
  | purple
  deriving DecidableEq, Repr

namespace Style

/-- The number by which terminals know a style. -/
def number : Style → Nat
  | faint => 2
  | slanted => 3
  | red => 31
  | green => 32
  | yellow => 33
  | blue => 34
  | purple => 35

/-- The text in a style, if texts are styled at all. -/
def apply (style : Style) (styled : Bool) (text : String) : String :=
  if styled then s!"\x1b[{style.number}m{text}\x1b[0m" else text

end Style

/-- Whether log lines for readers are styled. -/
def logsAreStyled (env : Environment) : Bool := (env.nonempty? "NO_COLOR").isNone

/-- Whether the standard output is a terminal with colours. -/
def hasColours (env : Environment) : Bool :=
  env.terminal && (env.value? "NO_COLOR").isNone && (env.value? "TERM").any (· ≠ "dumb") &&
    (env.value? "CLICOLOR").all (· ≠ "0")

/-- Whether what is printed for readers is styled: one variable asks for it everywhere. -/
def outputIsStyled (env : Environment) : Bool :=
  hasColours env || (env.value? "CLICOLOR_FORCE").any (· ≠ "0")

/-- The variables that styles depend on. -/
def styleVariables : List String := ["NO_COLOR", "TERM", "CLICOLOR", "CLICOLOR_FORCE"]

end SessionKit.Cli
