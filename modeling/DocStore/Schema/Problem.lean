/-!
# Problems of schemas

What makes a schema unacceptable although it has the right shape.
-/

namespace DocStore

inductive PatternProblem where
  | malformed
  /-- The expression would take more room than `limit` bytes. -/
  | tooLarge (limit : Nat)
  deriving DecidableEq

inductive SchemaProblem where
  | unknownGenerator (name : String)
  | unknownTransform (name : String)
  | invalidPattern (source : String) (problem : PatternProblem)
  | noTypes
  | defaultAndGenerator (generator : String)
  deriving DecidableEq

/-- The first line of the explanation. -/
def PatternProblem.message : PatternProblem → String
  | .malformed => "regex parse error:"
  | .tooLarge limit => s!"Compiled regex exceeds size limit of {limit} bytes."

def SchemaProblem.message : SchemaProblem → String
  | .unknownGenerator name => s!"Unknown default generator '{name}'"
  | .unknownTransform name => s!"Unknown transform '{name}'"
  | .invalidPattern source problem => s!"Invalid pattern '{source}': {problem.message}"
  | .noTypes => "Field type list must not be empty"
  | .defaultAndGenerator generator =>
    s!"Field declares both a default and the '{generator}' generator"

end DocStore
