/-!
# Links

A saved link as a search answers it.
-/

namespace LinkSearch.Links

structure Link where
  id : Int
  title : String
  url : String
  note : String
  archive : Bool
  favorite : Bool
  deriving DecidableEq

/-- The words for the flags that are set. -/
def Link.flags (link : Link) : String :=
  ", ".intercalate <|
    (if link.favorite then ["favorite"] else []) ++ if link.archive then ["archived"] else []

end LinkSearch.Links
