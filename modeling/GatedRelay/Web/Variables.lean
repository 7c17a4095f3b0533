import GatedRelay.Expr.Convert
import GatedRelay.Web.Request

/-!
Requests as expressions see them: a map `origin` and a map `request`. The fields `json` and
`post` are there only for bodies of their kinds.
-/

namespace GatedRelay.RequestContext

open GatedRelay.Expr (Value)

def record (fields : List (String × Value)) : Value :=
  .map none (fields.map fun f => (.string f.1, f.2))

def wholeNumber (i : Int) : Value := .int (Int64.ofInt i)

def origin (c : RequestContext) : Value := record [("ip", .string c.originIp)]

def timeValue (t : ClockFields) : Value :=
  record [("year", wholeNumber t.year), ("month", wholeNumber t.month), ("day", wholeNumber t.day),
    ("hour", wholeNumber t.hour), ("minute", wholeNumber t.minute),
    ("second", wholeNumber t.second)]

def postValue (fields : Form.Fields) : Value :=
  record (fields.map fun f => (f.1, .list none (f.2.map .string)))

def request (c : RequestContext) : Value :=
  record ([("body", .string c.body), ("method", .string c.method), ("path", .string c.path),
    ("scheme", .string c.scheme), ("query", .string c.query),
    ("headers", record (c.headers.map fun h => (h.1, .string h.2))),
    ("unixtime", wholeNumber c.unixtime), ("time", timeValue c.time)] ++
    (c.json.map fun j => ("json", Value.ofJson j)).toList ++
    (c.post.map fun fields => ("post", postValue fields)).toList)

end GatedRelay.RequestContext
