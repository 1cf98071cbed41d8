import Gamebook.Book.Check
import Gamebook.Transcript

/-!
# Commands

The command line of the program: a verb and its arguments. Arguments are looked at from left to
right, and the first that is wrong, or that asks for the version, decides. After two hyphens
all arguments are paths. An option is given at most once, and its value may not look like an
option.

* `Command.ofArgs?` gives nothing for a command line that is wrong.
-/

namespace Gamebook.Console

/-- What the program is asked to do with a story. -/
inductive Verb where
  | play
  | check
  | scenes
deriving DecidableEq

/-- The word for a `Verb` on the command line. -/
def Verb.name : Verb → String
  | .play => "play"
  | .check => "check"
  | .scenes => "scenes"

/-- A command line that is right. -/
inductive Command where
  /-- Tell the version, perhaps after a verb. -/
  | version (verb : Option Verb)
  | play (path fallback : String) (policy : DeadEndPolicy)
  | check (path : String) (policy : DeadEndPolicy)
  | scenes (path : String)
deriving DecidableEq

/-- The arguments after a `Verb`, as far as they were looked at. -/
structure Options where
  path : Option String
  fallback : Option String
  policy : DeadEndPolicy
  /-- Whether two hyphens were seen. -/
  pathsOnly : Bool
deriving DecidableEq

namespace Options

/-- The `Options` before any argument. -/
def none : Options := ⟨.none, .none, .warn, false⟩

/-- The `Command` of a verb with options. -/
def command (options : Options) (verb : Verb) : Command :=
  let path := options.path.getD "story.json"
  match verb with
  | .play => .play path (options.fallback.getD defaultFallback) options.policy
  | .check => .check path options.policy
  | .scenes => .scenes path

end Options

/-- Whether an argument looks like an option. A lone hyphen does not. -/
def looksLikeOption (arg : String) : Bool := "-".isPrefixOf arg && arg != "-"

/-- Whether an argument asks for the version. Letters after the short form are not looked at. -/
def asksVersion (arg : String) : Bool := arg == "--version" || "-V".isPrefixOf arg

/-- The option for the words that stand for a missing reason, as in `Style.fallback`. -/
def fallbackOption : String := "--fallback-reason"

/-- The value of the `fallbackOption`, if it is joined to it. -/
def joinedFallback? (arg : String) : Option String :=
  if (fallbackOption ++ "=").isPrefixOf arg then
    some (.ofList (arg.toList.drop (fallbackOption.length + 1)))
  else none

/-- Reads the arguments after a `Verb`. -/
def readArgs (verb : Verb) (options : Options) : List String → Option Command
  | [] => some (options.command verb)
  | arg :: rest =>
    if options.pathsOnly || !looksLikeOption arg then
      if arg.isEmpty || options.path.isSome then none
      else readArgs verb { options with path := some arg } rest
    else if arg = "--" then readArgs verb { options with pathsOnly := true } rest
    else if asksVersion arg then some (.version (some verb))
    else if arg = "--deny-dead-ends" then
      if verb = .scenes ∨ options.policy = .deny then none
      else readArgs verb { options with policy := .deny } rest
    else if verb ≠ .play ∨ options.fallback.isSome then none
    else if arg = fallbackOption then
      match rest with
      | [] => none
      | value :: rest =>
        if looksLikeOption value then none
        else readArgs verb { options with fallback := some value } rest
    else
      match joinedFallback? arg with
      | some value => readArgs verb { options with fallback := some value } rest
      | none => none

/-- The `Command` of a command line, if the line is right. -/
def Command.ofArgs? : List String → Option Command
  | [] => none
  | arg :: rest =>
    match [Verb.play, .check, .scenes].find? (·.name == arg) with
    | some verb => readArgs verb .none rest
    | none => if asksVersion arg then some (.version none) else none

end Gamebook.Console
