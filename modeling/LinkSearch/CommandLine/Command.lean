import LinkSearch.CommandLine.Arguments
import LinkSearch.CommandLine.Asking
import LinkSearch.CommandLine.Inspection
import LinkSearch.Settings.Template

/-!
# Running a command

A command runs in a tree of files, with a home directory and from a working directory.  All of them
but `init` leave the tree as it is and need the settings first; `init` writes a new settings file
and reads none.
-/

namespace LinkSearch.CommandLine

open LinkSearch.Files LinkSearch.Links LinkSearch.Settings

/-- Where a command runs. -/
structure Surroundings where
  tree : FileTree Database
  home : Option Path
  cwd : Address

namespace Surroundings

/-- The settings in effect: those of the given file, or of the one that applies here. -/
def settings (here : Surroundings) (config : Option Path) : Except Settings.Error Settings :=
  match config with
  | some path => loadFile here.tree here.home here.cwd path
  | none => load here.tree here.home here.cwd here.cwd.path

/-- The settings file that `init` writes. -/
def newFile (here : Surroundings) (global : Bool) : Option Path :=
  if global then globalFile here.home else some (here.cwd.path.join fileName)

/-- Writes a settings file to start from, unless there is one and it must not be replaced. -/
def init (here : Surroundings) (global force : Bool) : Report × FileTree Database :=
  match here.newFile global with
  | none => (.failure "could not determine home directory" [], here.tree)
  | some path =>
    if here.tree.doesExist here.cwd path && !force then
      (.failure ("configuration file already exists: " ++ path.text)
        ["use --force to overwrite"], here.tree)
    else
      match here.tree.write here.cwd path (.text Settings.template) with
      | .error cause =>
        (.failure ("failed to write " ++ path.text ++ ": " ++ cause.message) [], here.tree)
      | .ok tree =>
        (.shown ["Created " ++ path.text,
          "Every setting is commented out; the built-in defaults apply until you edit it."], tree)

/-- Answers an inquiry, given the settings. -/
def answer (here : Surroundings) (settings : Settings) : Inquiry → Report
  | .search query db limit json => searchLinks here.tree here.cwd settings query db limit json
  | .parse query json => parseQuery settings query json
  | .sql query json => showPredicate settings query json
  | .config => showSettings settings
  | .check => checkSettings here.tree here.home here.cwd settings

/-- Answers an inquiry with the settings in effect. -/
def inquire (here : Surroundings) (config : Option Path) (inquiry : Inquiry) : Report :=
  match here.settings config with
  | .error error => .failure ("failed to load configuration: " ++ error.message) []
  | .ok settings => here.answer settings inquiry

/--
Runs a command: its report, and the tree after it.  Lines of a log are left out of the report.  There
are none without `-v`, which changes nothing else.
-/
def run (here : Surroundings) (invocation : Invocation) : Report × FileTree Database :=
  match invocation.command with
  | .init global force => here.init global force
  | .inquire inquiry => (here.inquire invocation.config inquiry, here.tree)

end Surroundings

end LinkSearch.CommandLine
