import Tapline.Breadcrumb.Basic
/-!
# The breadcrumb of an operation

An operation leaves a breadcrumb if it has a name: its function, command or method, whichever is
given first. The breadcrumb tells how long the operation took, if it took any time, and is raised
to an error with its text if the operation failed.
-/

namespace Tapline

/-- The first text that is not empty. -/
def firstNonEmpty (texts : List String) : Option String := texts.find? (fun s => !s.isEmpty)

/-- The name of an operation. -/
def Bag.operationName? (bag : Bag) : Option String :=
  firstNonEmpty [bag.text ArgName.funcName, bag.text ArgName.commandName,
    bag.text ArgName.methodName]

/-- The breadcrumb of an operation that ended at a point in time. -/
def Breadcrumb.ofOperation? (now : Timestamp) (bag : Bag) : Option Breadcrumb :=
  bag.operationName?.map fun name =>
    let crumb := { Breadcrumb.new now "query" with message := some name }
    let duration := bag.duration ArgName.duration
    let timed :=
      if duration.isZero then crumb
      else crumb.withData ArgName.duration (.string duration.text)
    match bag.error? ArgName.error with
    | some message =>
      { timed with level := .error }.withData ArgName.error (.string message)
    | none => timed

end Tapline
