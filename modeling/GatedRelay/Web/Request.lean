import GatedRelay.Json.Parser
import GatedRelay.Net.HostPort
import GatedRelay.Text.Blank
import GatedRelay.Time.Timestamp
import GatedRelay.Web.Form
import GatedRelay.Web.Uri

/-!
Requests, and what is kept of one: whence it came, its parts as texts, and its body as JSON or as
form fields where its media type says so.
-/

namespace GatedRelay

structure Request where
  /-- The peer's address as host and port. -/
  remoteAddr : String
  method : String
  uri : Uri
  /-- A name may repeat, and its case does not matter. -/
  headers : List (String × Bytes)
  body : Bytes

/-- How a body is read. -/
inductive BodyKind
  | json
  | form
  | raw
  deriving DecidableEq

namespace BodyKind

/-- Goes by a media type; its parameters and its case do not matter. -/
def ofContentType (contentType : Option String) : BodyKind :=
  match contentType with
  | none => raw
  | some s =>
    match String.ofList (Text.lowerAscii (Text.trim (s.toList.takeWhile (· ≠ ';')))) with
    | "application/json" | "text/json" => json
    | "application/x-www-form-urlencoded" => form
    | _ => raw

end BodyKind

/-- The fields of a clock that shows UTC. -/
structure ClockFields where
  year : Int
  month : Nat
  day : Nat
  hour : Nat
  minute : Nat
  second : Nat
  deriving DecidableEq

def ClockFields.ofUnix (seconds : Int) : ClockFields :=
  let l := Timestamp.atOffset ⟨seconds, 0, 0⟩ 0
  ⟨l.date.year, l.date.month, l.date.day, l.hour, l.minute, l.second⟩

/-- Why a request is not taken up. -/
inductive RequestError
  | badPeer (addr : String)
  | notPost (method : String)
  | emptyBody
  | badJson
  | badEscape (found : String)
  deriving DecidableEq

def RequestError.message : RequestError → String
  | badPeer addr => s!"unable to parse remote address '{addr}'"
  | notPost method => s!"{method} is not a POST request"
  | emptyBody => "empty request body"
  | badJson => "invalid JSON body: *"
  | badEscape found => s!"invalid form body: invalid URL escape \"{found}\""

/-- What is kept of a request. -/
structure RequestContext where
  originIp : String
  body : String
  method : String
  path : String
  scheme : String
  query : String
  json : Option Json
  post : Option Form.Fields
  /-- Each name once and in lower case, in the order of names. -/
  headers : List (String × String)
  unixtime : Int

namespace RequestContext

/-- The name of a header in lower case. -/
def headerName (name : String) : String := String.ofList (Text.lowerAscii name.toList)

@[simp] theorem toList_headerName (name : String) :
    (headerName name).toList = name.toList.map Char.toLower := String.toList_ofList

theorem headerName_eq_iff {name n : String} :
    headerName name = n ↔ name.toList.map Char.toLower = n.toList := by
  rw [← toList_headerName, String.toList_inj]

/-- Puts a header at its place in the order of names; a header of that name is replaced. -/
def putHeader (name value : String) : List (String × String) → List (String × String)
  | [] => [(name, value)]
  | (n, v) :: rest =>
    if name < n then (name, value) :: (n, v) :: rest
    else if name = n then (name, value) :: rest
    else (n, v) :: putHeader name value rest

/-- Of several headers of a name the first one counts. -/
def firstHeaders : List (String × Bytes) → List (String × String)
  | [] => []
  | (name, value) :: rest =>
    putHeader (headerName name) (Utf8.decodeLossy value) (firstHeaders rest)

def header? (name : String) (headers : List (String × String)) : Option String :=
  (headers.find? fun h => h.1 == name).map (·.2)

/-- The body as JSON or as form fields. -/
def readBody (kind : BodyKind) (body : Bytes) :
    Except RequestError (Option Json × Option Form.Fields) :=
  match kind with
  | .raw => .ok (none, none)
  | .json =>
    match Json.parseBytes? body with
    | some j => .ok (some j, none)
    | none => .error .badJson
  | .form =>
    match Form.parse body with
    | .ok fields => .ok (none, some fields)
    | .error found => .error (.badEscape found)

/-- Takes up a request that arrives at some time. -/
def build (r : Request) (now : Int) : Except RequestError RequestContext :=
  match HostPort.split? r.remoteAddr with
  | none => .error (.badPeer r.remoteAddr)
  | some originIp =>
    if r.method ≠ "POST" then .error (.notPost r.method)
    else if r.body.isEmpty then .error .emptyBody
    else
      let headers := firstHeaders r.headers
      match readBody (.ofContentType (header? "content-type" headers)) r.body with
      | .error e => .error e
      | .ok (json, post) =>
        .ok {
          originIp := originIp
          body := Utf8.decodeLossy r.body
          method := r.method
          path := r.uri.path
          scheme := (r.uri.scheme <|> header? "x-forwarded-proto" headers).getD "http"
          query := r.uri.query.getD ""
          json := json
          post := post
          headers := headers
          unixtime := now }

theorem build_eq_ok_iff {r : Request} {now : Int} {c : RequestContext} :
    build r now = .ok c ↔ ∃ originIp json post,
      HostPort.split? r.remoteAddr = some originIp ∧ r.method = "POST" ∧ r.body ≠ [] ∧
      readBody (.ofContentType (header? "content-type" (firstHeaders r.headers))) r.body =
        .ok (json, post) ∧
      c = {
        originIp := originIp
        body := Utf8.decodeLossy r.body
        method := r.method
        path := r.uri.path
        scheme :=
          (r.uri.scheme <|> header? "x-forwarded-proto" (firstHeaders r.headers)).getD "http"
        query := r.uri.query.getD ""
        json := json
        post := post
        headers := firstHeaders r.headers
        unixtime := now } := by
  unfold build
  constructor
  · intro h
    split at h
    · cases h
    · next originIp hip =>
      split at h
      · cases h
      · next hmethod =>
        split at h
        · cases h
        · next hbody =>
          dsimp only at h
          split at h
          · cases h
          · next json post hread =>
            cases h
            exact ⟨originIp, json, post, hip, Decidable.not_not.mp hmethod, by simpa using hbody,
              hread, rfl⟩
  · rintro ⟨originIp, json, post, hip, hmethod, hbody, hread, rfl⟩
    have hempty : ¬r.body.isEmpty := by simpa using hbody
    rw [hip]
    dsimp only
    rw [if_neg (Decidable.not_not.mpr hmethod), if_neg hempty, hread]

def time (c : RequestContext) : ClockFields := .ofUnix c.unixtime

end RequestContext

end GatedRelay
