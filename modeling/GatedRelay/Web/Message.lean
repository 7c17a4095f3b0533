import GatedRelay.Publish.Status
import GatedRelay.Web.Handler

/-!
HTTP messages as text: the head of a request, line by line, and the whole of an answer.
-/

namespace GatedRelay

/-- A request without its body. -/
structure RequestHead where
  method : String
  uri : Uri
  headers : List (String × Bytes)

namespace RequestHead

/-- A method, a target and a version, with single spaces between them. -/
def readFirst? (line : List Char) : Option (String × Uri) :=
  match Text.split [' '] line with
  | [method, target, _] =>
    if method.isEmpty then none else (Uri.parse? target).map (String.ofList method, ·)
  | _ => none

/-- A name in any case, a colon, and a value between blanks. -/
def readHeader? (line : List Char) : Option (String × Bytes) :=
  match Text.cutAt? ':' line with
  | some (name, value) =>
    if name.isEmpty then none
    else some (String.ofList (Text.lowerAscii name), Utf8.encode (Text.trim value))
  | none => none

/-- The head of a request from its lines, without line ends. -/
def ofLines? : List String → Option RequestHead
  | [] => none
  | first :: rest => do
    let (method, uri) ← readFirst? first.toList
    let headers ← rest.mapM fun line => readHeader? line.toList
    some ⟨method, uri, headers⟩

/-- The number of bytes in the body. -/
def bodyLength (h : RequestHead) : Nat :=
  match h.headers.find? fun f => f.1 == "content-length" with
  | some f => ((Utf8.decode? f.2).bind (Numeral.read? 10)).getD 0
  | none => 0

/-- The request of a peer, with its body. -/
def complete (h : RequestHead) (remoteAddr : String) (body : Bytes) : Request :=
  ⟨remoteAddr, h.method, h.uri, h.headers, body⟩

end RequestHead

namespace HttpAnswer

def headerLine (name value : String) : String := name ++ ": " ++ value ++ "\r\n"

/-- An answer after which the connection is closed. -/
def message (a : HttpAnswer) : Bytes :=
  Utf8.ofString
    ("HTTP/1.1 " ++ Status.text a.status ++ "\r\n" ++
      ((a.contentType.map (headerLine "content-type")).getD "") ++
      headerLine "content-length" (Numeral.decimalString a.body.length) ++
      headerLine "connection" "close" ++ "\r\n") ++ a.body

end HttpAnswer

end GatedRelay
