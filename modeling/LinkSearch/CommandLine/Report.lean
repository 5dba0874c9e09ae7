import LinkSearch.Query.Error
import LinkSearch.Text.Line

/-!
# Reports

What a command leaves behind for whoever gave it: whether it succeeded, and two texts.
-/

namespace LinkSearch.CommandLine

structure Report where
  succeeded : Bool
  /-- What the command shows. -/
  output : String
  /-- What went wrong. -/
  errors : String
  deriving DecidableEq

namespace Report

/-- A success that shows some lines. -/
def shown (lines : List String) : Report := ⟨true, Text.unlines lines, ""⟩

/-- A failure for which these lines give the reason; the first is marked as an error. -/
def failure (reason : String) (more : List String) : Report :=
  ⟨false, "", Text.unlines (("error: " ++ reason) :: more)⟩

/-- The failure of a query, with advice where there is some. -/
def ofQueryError (error : Query.Error) : Report :=
  failure error.described (error.hint?.toList.map ("hint: " ++ ·))

def exitCode (report : Report) : Nat :=
  if report.succeeded then 0 else 1

end Report

end LinkSearch.CommandLine
