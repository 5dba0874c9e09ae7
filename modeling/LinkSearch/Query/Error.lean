import LinkSearch.Text.Quoted

/-!
# What can be wrong with a query or with a schema

An issue is found in one term and leaves the others alone.  An error ends the whole reading.
-/

namespace LinkSearch.Query

/-- What is wrong with one term. -/
inductive Issue where
  /-- No field has this name. -/
  | unknownField (name : String)
  /-- The field takes `true` or `false` only. -/
  | invalidBoolean (name value : String)
  deriving DecidableEq

/-- The text shown to whoever wrote the query. -/
def Issue.message : Issue → String
  | .unknownField name => "Unknown field: " ++ name
  | .invalidBoolean name value =>
    "Invalid boolean value for " ++ name ++ ": " ++ value ++ ". Expected 'true' or 'false'."

/-- Why a query has no predicate, or why a schema cannot be made. -/
inductive Error where
  /-- The query has more terms than a query may have. -/
  | tooManyTerms (limit : Nat)
  /-- The query has a loose term, and there are no columns to look for it in. -/
  | noLooseColumns
  /-- Some terms have issues. -/
  | rejected (issues : List Issue)
  /-- This text does not name a column. -/
  | invalidName (name : String)
  /-- Two fields have this name. -/
  | duplicateField (name : String)
  deriving DecidableEq

namespace Error

def message : Error → String
  | .tooManyTerms limit =>
    "query exceeds maximum complexity of " ++ toString limit ++ " terms"
  | .noLooseColumns => "no searchable columns configured for loose matcher"
  | .rejected issues =>
    "invalid search query: " ++ "; ".intercalate (issues.map Issue.message)
  | .invalidName name => "invalid SQL identifier: " ++ Text.quote name
  | .duplicateField name => "duplicate field name: " ++ name

/-- Whether the query is at fault, and not the settings. -/
def isUserError : Error → Bool
  | .tooManyTerms _ | .rejected _ => true
  | _ => false

/-- An unknown field outweighs a wrong truth value in the advice given. -/
def issuesHint? (issues : List Issue) : Option String :=
  if issues.any (· matches .unknownField _) then
    some "Field names are case sensitive; quote the term to search it as text"
  else if issues.any (· matches .invalidBoolean _ _) then
    some "Boolean fields accept only true or false"
  else none

/-- Advice, where there is some to give. -/
def hint? : Error → Option String
  | .tooManyTerms _ => some "Try reducing search terms"
  | .rejected issues => issuesHint? issues
  | .noLooseColumns => some "Configure at least one loose search column"
  | .invalidName _ | .duplicateField _ => none

/-- What went wrong, and whether to change the query or the settings. -/
def described (error : Error) : String :=
  match error with
  | .tooManyTerms _ => "query too complex: " ++ error.message
  | .rejected _ => error.message
  | .noLooseColumns | .invalidName _ | .duplicateField _ =>
    "search misconfigured: " ++ error.message

/-- Terms with issues always come with advice. -/
theorem isSome_issuesHint? {issues : List Issue} (h : issues ≠ []) :
    (issuesHint? issues).isSome := by
  obtain ⟨first, rest, rfl⟩ := List.exists_cons_of_ne_nil h
  unfold issuesHint?
  cases first <;> simp [apply_ite Option.isSome]

end Error

end LinkSearch.Query
