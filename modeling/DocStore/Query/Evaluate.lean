import DocStore.Query.Sort
import DocStore.Query.Cursor
import DocStore.Failure

/-!
# Answering queries

A query is answered in a fixed order: filter, search, count, sort, and cut out the
part that was asked for.
-/

namespace DocStore

/-- Whether a value takes part in a search and contains the text, which is in lower
case already. -/
def Json.isHit (needle : List Char) : Json → Bool
  | .array _ | .object _ | .null => false
  | value => occursIn needle (lowerCase value.display).toList

namespace Search

/-- Whether a record is found: without regard to letter case, in the fields asked
for.  The empty text is found everywhere. -/
def finds (search : Search) (record : Record) : Bool :=
  let needle := (lowerCase search.text).toList
  needle.isEmpty ||
    match search.fields with
    | some fields => (fields.filterMap (Fields.get? · record)).any (·.isHit needle)
    | none => record.any (·.2.isHit needle)

end Search

namespace Paging

/-- A natural cut down to the largest word. -/
def saturate (n : Nat) : Nat :=
  min n 18446744073709551615

/-- A page of a result.  Page zero is the first one, and pages of no records have
no last one. -/
def cutPage (number limit : UInt64) (records : List Record) : List Record × PageInfo :=
  let number := max number.toNat 1
  let limit := limit.toNat
  if limit = 0 then
    ([], { currentPage := some number, pageCount := some 0, hasMore := false })
  else
    let pageCount := (records.length + limit - 1) / limit
    let start := saturate ((number - 1) * limit)
    ((records.drop start).take limit,
      { currentPage := some number, pageCount := some pageCount
        hasMore := number < pageCount })

/-- The records from an offset on.  Where no record is asked for there is no next
place. -/
def cutFrom (offset limit : UInt64) (records : List Record) : List Record × PageInfo :=
  let next := saturate (offset.toNat + limit.toNat)
  let hasMore := limit ≠ 0 && next < records.length
  ((records.drop offset.toNat).take limit.toNat,
    { nextCursor := if hasMore then some (Cursor.encode next) else none, hasMore })

def cut (paging : Paging) (records : List Record) :
    Except Failure (List Record × PageInfo) :=
  match paging with
  | .page number limit => .ok (cutPage number limit records)
  | .cursor mark limit =>
    let mark := mark.getD ""
    match Cursor.decode? mark with
    | some offset => .ok (cutFrom offset limit records)
    | none => .error (.invalidCursor mark)

end Paging

namespace QueryOptions

def selects (options : QueryOptions) (record : Record) : Bool :=
  (match options.filter with
    | some filter => filter.holds record
    | none => true) &&
  (match options.search with
    | some search => search.finds record
    | none => true)

def arrange (options : QueryOptions) (matched : List Record) : List Record :=
  match options.sort with
  | none | some [] => matched
  | some keys => sortRecords keys matched

def evaluate (options : QueryOptions) (records : List Record) :
    Except Failure QueryResult := do
  let arranged := options.arrange (records.filter options.selects)
  match options.paging with
  | none => return ⟨arranged, arranged.length, none⟩
  | some paging =>
    let (data, info) ← paging.cut arranged
    return ⟨data, arranged.length, some info⟩

end QueryOptions

end DocStore
