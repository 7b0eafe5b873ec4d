import DocStore.Query.Evaluate

/-!
# Walks along cursors

The pages of a query one after the other, each from where the one before it ends.
-/

namespace DocStore.QueryOptions

def pageFrom (options : QueryOptions) (records : List Record) (limit : UInt64)
    (mark : Option String) : Except Failure QueryResult :=
  { options with paging := some (.cursor mark limit) : QueryOptions }.evaluate records

/-- The pages from a cursor on, at most so many. -/
def walk (options : QueryOptions) (records : List Record) (limit : UInt64) :
    Nat → Option String → Except Failure (List QueryResult)
  | 0, _ => return []
  | most + 1, mark => do
    let result ← options.pageFrom records limit mark
    match result.page.bind (·.nextCursor) with
    | none => return [result]
    | some next => return result :: (← walk options records limit most (some next))

end DocStore.QueryOptions
