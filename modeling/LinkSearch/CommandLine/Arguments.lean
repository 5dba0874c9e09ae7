import LinkSearch.CommandLine.Usage
import LinkSearch.Files.Path
import LinkSearch.Text.Numeral

/-!
# Reading the command line

A command line is a command with options before and after it, and the words of a query.  An option
that takes a value finds it after an equals sign, right after its letter, or in the next word.  Such
a value is looked at only when the next option or word is taken, so of two faults the one that
comes first in the words is not always the one reported.  After two dashes no word is an option.
-/

namespace LinkSearch.CommandLine

open LinkSearch.Files

/-- What the words of one level, before or after the command, have given so far. -/
structure Given where
  config : Option String
  db : Option String
  limit : Option Nat
  verbose : Option Nat
  json : Bool
  global : Bool
  force : Bool
  /-- The words of the query. -/
  words : List String
  deriving DecidableEq

namespace Given

def nothing : Given := ⟨none, none, none, none, false, false, false, []⟩

/-- A number in decimal digits, after a plus sign or not, of less than 64 bits. -/
def readNumber? (s : String) : Option Nat :=
  let digits : List Char := match s.toList with
    | '+' :: rest => rest
    | digits => digits
  if digits = [] then none else (Text.numeral? 10 digits).filter (· < Nat.pow 2 64)

/-- A path, which must not be empty. -/
def path (current : Option String) (value : String) : Except UsageError (Option String) :=
  if current.isSome then .error .repeated
  else if value.isEmpty then .error .noValue
  else .ok (some value)

/-- Takes an option with its value. -/
def takeValue (given : Given) (switch : Switch) (value : String) : Except UsageError Given :=
  match switch with
  | .config => do return { given with config := ← path given.config value }
  | .db => do return { given with db := ← path given.db value }
  | _ =>
    if given.limit.isSome then .error .repeated
    else
      match readNumber? value with
      | some n => .ok { given with limit := some n }
      | none => .error .badNumber

/-- How often an option is counted at most. -/
def mostVerbose : Nat := 255

/-- Takes an option that has no value. -/
def takeFlag (given : Given) : Switch → Except UsageError Given
  | .help => .error .helpAsked
  | .verbose => .ok { given with verbose := some (min mostVerbose (given.verbose.getD 0 + 1)) }
  | .json => if given.json then .error .repeated else .ok { given with json := true }
  | .global => if given.global then .error .repeated else .ok { given with global := true }
  | _ => if given.force then .error .repeated else .ok { given with force := true }

def isNothing (given : Given) : Bool :=
  given == nothing

end Given

/-- How far the words of one level have been read. -/
structure Progress where
  given : Given
  /-- The last option with a value, not yet looked at, or without one that must still come. -/
  pending : Option (Switch × Option String)

namespace Progress

/-- Nothing read. -/
def start : Progress := ⟨.nothing, none⟩

/-- Looks at the option that was put off. -/
def settle (progress : Progress) : Except UsageError Given :=
  match progress.pending with
  | none => .ok progress.given
  | some (_, none) => .error .noValue
  | some (switch, some value) => progress.given.takeValue switch value

/-- Whether the next word is the value of an option. -/
def awaitsValue (progress : Progress) : Bool :=
  progress.pending matches some (_, none)

/-- An option with a value of its own. -/
def takeAttached (progress : Progress) (switch : Switch) (value : String) :
    Except UsageError Progress := do
  let given ← progress.settle
  return ⟨← given.takeValue switch value, none⟩

/-- An option whose value is the next word. -/
def await (progress : Progress) (switch : Switch) : Except UsageError Progress := do
  return ⟨← progress.settle, some (switch, none)⟩

/-- An option without a value. -/
def takeFlag (progress : Progress) (switch : Switch) : Except UsageError Progress := do
  let given ← progress.settle
  return ⟨← given.takeFlag switch, none⟩

def takeWord (progress : Progress) (word : String) : Except UsageError Progress := do
  let given ← progress.settle
  return ⟨{ given with words := given.words ++ [word] }, none⟩

/-- An option that begins with two dashes, which are taken off. -/
def takeLong (verb : Option Verb) (progress : Progress) (body : List Char) :
    Except UsageError Progress :=
  let name := body.takeWhile (· != '=')
  match Switch.ofWord? verb (String.ofList name), body.dropWhile (· != '=') with
  | none, _ => .error .unknownArgument
  | some switch, [] => if switch.takesValue then progress.await switch else progress.takeFlag switch
  | some switch, _ :: value =>
    if switch.takesValue then progress.takeAttached switch (String.ofList value)
    else .error .surplusValue

/-- The value that follows the letter of an option, without the equals sign before it. -/
def attachedValue : List Char → String
  | '=' :: value => String.ofList value
  | value => String.ofList value

/-- Letters of options that follow one dash. -/
def takeLetters (verb : Option Verb) (progress : Progress) : List Char → Except UsageError Progress
  | [] => .ok progress
  | letter :: rest =>
    match Switch.ofLetter? verb letter with
    | none => .error .unknownArgument
    | some switch =>
      if switch.takesValue then
        if rest.isEmpty then progress.await switch
        else progress.takeAttached switch (attachedValue rest)
      else do takeLetters verb (← progress.takeFlag switch) rest

/-- A word that is neither an option nor a command. -/
def takePlain (verb : Option Verb) (progress : Progress) (word : String) :
    Except UsageError Progress :=
  match verb with
  | none => .error .unknownCommand
  | some verb => if verb.takesQuery then progress.takeWord word else .error .unknownArgument

/-- A word that may be an option; none if it is not. -/
def takeOption? (verb : Option Verb) (progress : Progress) (word : String) :
    Option (Except UsageError Progress) :=
  match word.toList with
  | '-' :: '-' :: body => some (progress.takeLong verb body)
  | '-' :: letter :: rest => some (progress.takeLetters verb (letter :: rest))
  | _ => none

/-- The value that an option waits for, or else a plain word. -/
def takeRest (verb : Option Verb) (progress : Progress) (word : String) :
    Except UsageError Progress :=
  match progress.pending with
  | some (switch, none) => .ok ⟨progress.given, some (switch, some word)⟩
  | _ => progress.takePlain verb word

/-- One word before any two dashes. -/
def take (verb : Option Verb) (progress : Progress) (word : String) :
    Except UsageError Progress :=
  (progress.takeOption? verb word).getD (progress.takeRest verb word)

end Progress

def readAfter (verb : Verb) (progress : Progress) : List String → Except UsageError Progress
  | [] => .ok progress
  | word :: rest =>
    if word = "--" then rest.foldlM (Progress.takePlain (some verb)) progress
    else do readAfter verb (← progress.take (some verb) word) rest

/-- The word that asks for help about a command. -/
def helpWord : String := "help"

/-- Whether a word names a command or asks for help. -/
def isCommandWord (word : String) : Bool :=
  word == helpWord || (Verb.ofWord? word).isSome

/-- The words after `help` name a command, or none. -/
def checkHelp : List String → UsageError
  | [] => .helpAsked
  | [word] => if isCommandWord word then .helpAsked else .unknownCommand
  | _ => .unknownCommand

/-- The words up to the command: what they give, the command, and the words after it. -/
def readBefore (progress : Progress) :
    List String → Except UsageError (Progress × Option (Verb × List String))
  | [] => .ok (progress, none)
  | word :: rest =>
    if word = helpWord ∧ !progress.awaitsValue then .error (checkHelp rest)
    else
      match if progress.awaitsValue then none else Verb.ofWord? word with
      | some verb => .ok (progress, some (verb, rest))
      | none =>
        if word = "--" then
          match rest with
          | [] => .ok (progress, none)
          | next :: _ =>
            .error (if isCommandWord next then .unknownArgument else .unknownCommand)
        else do readBefore (← progress.take none word) rest

/-- A command that shows something and changes nothing. -/
inductive Inquiry where
  | search (query : String) (db : Option Path) (limit : Option Nat) (json : Bool)
  | parse (query : String) (json : Bool)
  | sql (query : String) (json : Bool)
  | config
  | check
  deriving DecidableEq

/-- What to do, with what it needs to know. -/
inductive Command where
  /-- Makes a new settings file. -/
  | init (global force : Bool)
  /-- Shows something, with the settings in effect. -/
  | inquire (inquiry : Inquiry)
  deriving DecidableEq

/-- Whether a command needs the settings. -/
def Command.needsSettings : Command → Bool
  | .init .. => false
  | .inquire _ => true

/-- The words of a query, joined by single spaces. -/
def joinWords (words : List String) : String :=
  " ".intercalate words

/-- The command that a verb and what is given for it make. -/
def Command.ofGiven (given : Given) : Verb → Command
  | .search =>
    .inquire (.search (joinWords given.words) (given.db.map Files.Path.mk) given.limit given.json)
  | .parse => .inquire (.parse (joinWords given.words) given.json)
  | .sql => .inquire (.sql (joinWords given.words) given.json)
  | .init => .init given.global given.force
  | .config => .inquire .config
  | .check => .inquire .check

/-- A command line that has been read. -/
structure Invocation where
  command : Command
  /-- The settings file to use in place of the one that would be found. -/
  config : Option Path
  /-- How often more words were asked for. -/
  verbose : Nat
  deriving DecidableEq

/-- Why words without a command are refused. -/
def withoutCommand (given : Given) : UsageError :=
  if given.isNothing then .noWords else .missingCommand

/--
Reads the words of a command line.  What is given after the command outweighs what is before it.
-/
def Invocation.read (words : List String) : Except UsageError Invocation := do
  match ← readBefore .start words with
  | (before, none) =>
    .error (withoutCommand (← before.settle))
  | (before, some (verb, rest)) =>
    let inner ← (← readAfter verb .start rest).settle
    let outer ← before.settle
    return {
      command := .ofGiven inner verb
      config := (inner.config.or outer.config).map Files.Path.mk
      verbose := (inner.verbose.or outer.verbose).getD 0 }

end LinkSearch.CommandLine
