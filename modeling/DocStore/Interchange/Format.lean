import DocStore.Interchange.Csv

/-!
# Interchange formats

The text formats in which all collections of a store can be written and read at
once.
-/

namespace DocStore

inductive ExchangeFormat where
  | json
  | csv
  deriving DecidableEq

namespace ExchangeFormat

def name : ExchangeFormat → String
  | .json => "json"
  | .csv => "csv"

def ofName? (name : String) : Option ExchangeFormat :=
  [json, csv].find? (·.name = name)

def write (format : ExchangeFormat) (collections : Collections) : String :=
  match format with
  | .json => collections.toJson.pretty
  | .csv => Csv.write collections

def read (format : ExchangeFormat) (text : String) : Except Failure Collections :=
  match format with
  | .json =>
    match Collections.readJson? text with
    | some collections => .ok collections
    | none => .error (.json none)
  | .csv => Csv.read text

end ExchangeFormat

end DocStore
