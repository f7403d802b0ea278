import Tapline.Breadcrumb.Basic
import Tapline.Json.Access
/-!
# Breadcrumbs from documents

A document describes a breadcrumb by its parts. Each of them may be missing; the level is then
`info`, and the type the common one.
-/

namespace Tapline

/-- The level of a name; another name is that of the common level. -/
def BreadcrumbLevel.named : String → BreadcrumbLevel
  | "debug" => .debug
  | "warning" => .warning
  | "error" => .error
  | "fatal" => .fatal
  | _ => .info

/-- The breadcrumb of a document, made at a point in time. -/
def Breadcrumb.ofDocument (timestamp : Timestamp) (document : Json) : Breadcrumb :=
  let text? (key : String) : Option String := (document.get key).str?
  { timestamp
    type := (text? "type").getD Breadcrumb.defaultType
    category := text? "category"
    message := text? "message"
    level := .named (document.get "level").text
    data := .ofList (document.get "data").members }

end Tapline
