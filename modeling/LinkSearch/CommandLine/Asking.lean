import LinkSearch.CommandLine.Report
import LinkSearch.Links.Search
import LinkSearch.Output.Listing
import LinkSearch.Settings.Basic

/-!
# Commands that ask a query

`parse` shows how a query is taken apart, `sql` shows its predicate, and `search` shows the links
that satisfy it.  The store is looked at only after the query has been accepted.
-/

namespace LinkSearch.CommandLine

open LinkSearch.Files LinkSearch.Links LinkSearch.Output LinkSearch.Query LinkSearch.Sql

/-- What a command does with the schema of some settings. -/
def withSchema (settings : Settings) (use : Schema → Report) : Report :=
  match settings.schema with
  | .ok schema => use schema
  | .error error => .failure ("search misconfigured: " ++ error.message) []

/-- Lines for people, or JSON. -/
def showAs (json : Bool) (document : Json) (lines : List String) : Report :=
  .shown (if json then [document.text] else lines)

/-- Shows how a query is taken apart; fails if a term has an issue. -/
def parseQuery (settings : Settings) (query : String) (json : Bool) : Report :=
  withSchema settings fun schema =>
    match schema.read query with
    | .error error => .ofQueryError error
    | .ok reading =>
      { showAs json (readingJson reading) (readingLines reading) with
        succeeded := !reading.hasIssues }

/-- What a command does with the predicate of a query. -/
def withPredicate (settings : Settings) (query : String) (use : Fragment → Report) : Report :=
  withSchema settings fun schema =>
    match schema.predicate query with
    | .error error => .ofQueryError error
    | .ok predicate => use predicate

/-- Shows the predicate of a query. -/
def showPredicate (settings : Settings) (query : String) (json : Bool) : Report :=
  withPredicate settings query fun predicate =>
    showAs json (fragmentJson predicate) (fragmentLines predicate)

/-- How many links are answered if no limit is given. -/
def usualLimit : Nat := 20

/-- The lines that show some links. -/
def linkLines (links : List Link) : List String :=
  if links.isEmpty then ["No links found."] else [(linkGrid links).text]

/-- Shows the links that satisfy a predicate. -/
def searchStore (tree : FileTree Database) (cwd : Address) (path : Path) (predicate : Fragment)
    (limit : Nat) (json : Bool) : Report :=
  match Store.open tree cwd path with
  | .error error =>
    .failure ("failed to open link store " ++ path.text ++ ": " ++ error.message) []
  | .ok store =>
    match store.search predicate limit with
    | .error error =>
      .failure ("search failed: " ++ error.message (select predicate limit).sql) []
    | .ok links => showAs json (.list (links.map linkJson)) (linkLines links)

/-- Shows the links that satisfy a query. -/
def searchLinks (tree : FileTree Database) (cwd : Address) (settings : Settings) (query : String)
    (db : Option Path) (limit : Option Nat) (json : Bool) : Report :=
  withPredicate settings query fun predicate =>
    match db.or settings.store with
    | none =>
      .failure "no link store configured" ["pass --db or set [store] path in .haudoi.toml"]
    | some path => searchStore tree cwd path predicate (limit.getD usualLimit) json

end LinkSearch.CommandLine
