/-!
# Commands and their options

The words that may stand on the command line: the commands, the options of each, and what can be
wrong with the way they are used.
-/

namespace LinkSearch.CommandLine

/-- Why the words of a command line name nothing to do. -/
inductive UsageError where
  /-- There are no words at all. -/
  | noWords
  /-- Help is asked for. -/
  | helpAsked
  | unknownCommand
  | missingCommand
  /-- An option, or a word, that the command does not take. -/
  | unknownArgument
  /-- An option that may be given once is given again. -/
  | repeated
  /-- An option has no value, or an empty path. -/
  | noValue
  /-- An option that takes no value has one. -/
  | surplusValue
  /-- A value that is no number of 64 bits. -/
  | badNumber
  deriving DecidableEq

/-- The exit code that goes with it: asking for help is no failure. -/
def UsageError.exitCode : UsageError → Nat
  | .helpAsked => 0
  | _ => 2

/-- What is wrong, or how to use the program. -/
def UsageError.message : UsageError → String
  | .noWords | .helpAsked =>
    "Usage: haudoi [--config PATH] [-v] <search|parse|sql|init|config|check> [OPTIONS] [QUERY]..."
  | .unknownCommand => "error: unrecognized subcommand"
  | .missingCommand => "error: a subcommand is required"
  | .unknownArgument => "error: unexpected argument"
  | .repeated => "error: an option cannot be used multiple times"
  | .noValue => "error: an option needs a value"
  | .surplusValue => "error: an option takes no value"
  | .badNumber => "error: invalid number"

inductive Verb where
  | search
  | parse
  | sql
  | init
  | config
  | check
  deriving DecidableEq

namespace Verb

def word : Verb → String
  | .search => "search"
  | .parse => "parse"
  | .sql => "sql"
  | .init => "init"
  | .config => "config"
  | .check => "check"

def all : List Verb := [.search, .parse, .sql, .init, .config, .check]

/-- The command that a word names. -/
def ofWord? (word : String) : Option Verb :=
  all.find? (·.word == word)

/-- Whether a command takes words of a query. -/
def takesQuery : Verb → Bool
  | .search | .parse | .sql => true
  | .init | .config | .check => false

end Verb

inductive Switch where
  | help
  | verbose
  | config
  | db
  | limit
  | json
  | global
  | force
  deriving DecidableEq

namespace Switch

/-- The name of an option, to stand after two dashes. -/
def word : Switch → String
  | .help => "help"
  | .verbose => "verbose"
  | .config => "config"
  | .db => "db"
  | .limit => "limit"
  | .json => "json"
  | .global => "global"
  | .force => "force"

/-- The letter of an option, to stand after one dash. -/
def letter? : Switch → Option Char
  | .help => some 'h'
  | .verbose => some 'v'
  | .limit => some 'n'
  | _ => none

/-- Whether an option takes a value. -/
def takesValue : Switch → Bool
  | .config | .db | .limit => true
  | _ => false

/-- The options that may stand anywhere. -/
def everywhere : List Switch := [.help, .verbose, .config]

/-- The options of a command; without a command, those that may stand before it. -/
def allowed : Option Verb → List Switch
  | none | some .config | some .check => everywhere
  | some .search => everywhere ++ [.db, .limit, .json]
  | some .parse | some .sql => everywhere ++ [.json]
  | some .init => everywhere ++ [.global, .force]

def ofWord? (verb : Option Verb) (word : String) : Option Switch :=
  (allowed verb).find? (·.word == word)

def ofLetter? (verb : Option Verb) (letter : Char) : Option Switch :=
  (allowed verb).find? (·.letter? == some letter)

end Switch

end LinkSearch.CommandLine
