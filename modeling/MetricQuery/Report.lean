import MetricQuery.Query.Error

namespace MetricQuery

/-- An error with the causes below it, the nearest one first. -/
structure Report where
  message : String
  causes : List String := []
deriving DecidableEq, Repr

namespace Report

def ofQuery (error : QueryError) : Report := ⟨error.message, error.causes⟩

/-- The error and its causes on one line. -/
def inline (report : Report) : String := ": ".intercalate (report.message :: report.causes)

/-- A text behind a mark, with each further line moved to the right. -/
def hang (mark : String) (width : Nat) (text : String) : String :=
  mark ++ String.ofList (text.toList.flatMap fun c =>
    if c = '\n' then '\n' :: List.replicate width ' ' else [c])

def numbered (number : Nat) : List String → List String
  | [] => []
  | cause :: rest =>
    let digits := toString number
    hang (String.ofList (List.replicate (5 - digits.length) ' ') ++ digits ++ ": ") 7 cause ::
      numbered (number + 1) rest

/-- The causes one below the other. They are numbered if there are several. -/
def causeLines : List String → List String
  | [] => []
  | [cause] => ["", "Caused by:", hang "    " 4 cause]
  | causes => "" :: "Caused by:" :: numbered 0 causes

/-- What is shown when a program ends with an error. -/
def display (report : Report) : String :=
  "\n".intercalate (("Error: " ++ report.message) :: causeLines report.causes)

end Report

end MetricQuery
