import DocStore.Query.Filter

/-!
# Query options

What a query asks for: a filter, a search, an order, and a part of the result.
-/

namespace DocStore

inductive Direction where
  | ascending
  | descending
  deriving DecidableEq

structure SortKey where
  field : String
  direction : Direction
  deriving DecidableEq

inductive Paging where
  /-- The page of a number that counts from one, with `limit` records a page. -/
  | page (number limit : UInt64)
  /-- At most `limit` records from the place that a cursor marks, or from the
  start. -/
  | cursor (mark : Option String) (limit : UInt64)
  deriving DecidableEq

/-- A text to look for, in some fields or in all. -/
structure Search where
  text : String
  fields : Option (List String)
  deriving DecidableEq

structure QueryOptions where
  filter : Option Filter := none
  sort : Option (List SortKey) := none
  paging : Option Paging := none
  search : Option Search := none

/-- The place of an answered part in the whole result. -/
structure PageInfo where
  currentPage : Option Nat := none
  pageCount : Option Nat := none
  nextCursor : Option String := none
  hasMore : Bool
  deriving DecidableEq

/-- The answer to a query.  `total` counts all matches, not only those of the
answered part. -/
structure QueryResult where
  data : List Record
  total : Nat
  page : Option PageInfo

end DocStore
