import MetricQuery.Text.Split

namespace MetricQuery

def pathSteps (path : String) : List String :=
  (splitAll '/' path.toList).map String.ofList

/-- The name a path ends in, if it ends in a name. -/
def fileName? (path : String) : Option String :=
  match ((pathSteps path).filter fun step => step ≠ "" ∧ step ≠ ".").getLast? with
  | none => none
  | some step => if step = ".." then none else some step

end MetricQuery
