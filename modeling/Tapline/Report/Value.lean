import Tapline.Value.Display
import Tapline.Value.Tagged
/-!
# A value through its views

What a value looks like as text, as JSON, and through every view. A view that does not apply is
null.
-/

namespace Tapline

/-- The report of an encoding: its text, or the reason why there is none. -/
def EncodeError.reportResult : Except EncodeError String → Json
  | .ok text => Value.tag "ok" text
  | .error e => Value.tag "err" e.message

/-- What a hidden value shows, and what it holds by type. -/
def Opaque.report (o : Opaque) : Json :=
  .ofMembers [("label", o.label), ("string", .ofOption Json.string (o.content.open? .text)),
    ("u32", .ofOption (fun n => Json.ofNat (UInt32.toNat n)) (o.content.open? .unsigned32))]

/-- A value through its views, given how points in time are shown. -/
def Value.report (time : Timestamp → Json) (v : Value) : Json :=
  let hidden : List (String × Json) := match v with
    | .hidden o => [("opaque", o.report)]
    | _ => []
  .ofMembers (hidden ++ [("display", (v.display : Json)), ("json", EncodeError.reportResult v.jsonText),
    ("to_json", EncodeError.reportResult (v.toJson.map Json.write)), ("is_null", v.isNull),
    ("as_str", .ofOption Json.string v.asText?),
    ("as_i64", .ofOption (fun n => Json.ofInt n.toInt) v.asInt?),
    ("as_u64", .ofOption (fun n => Json.ofNat n.toNat) v.asUInt?),
    ("as_f64", .ofOption Binary64.tagged v.asFloat?), ("as_bool", .ofOption Json.bool v.asBool?),
    ("as_time", .ofOption (fun t => time t.instant) v.asTime?),
    ("as_duration", .ofOption Duration.tagged v.asDuration?),
    ("as_error", .ofOption Json.string v.asError?)])

end Tapline
