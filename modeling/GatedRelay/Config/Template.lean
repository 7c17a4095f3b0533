/-!
The text of a configuration file to start from, with an explanation of every option.
-/

namespace GatedRelay.Template

def lines : List String :=
  ["# json2pubsub configuration",
   "#",
   "# Every value here can be overridden on the command line or through the matching",
   "# environment variable. Values starting with `gsm:` are read from Secret Manager at",
   "# startup, e.g. `control = \"gsm:projects/my-project/secrets/control-cel/versions/latest\"`.",
   "",
   "# Project used to qualify a short topic name (GOOGLE_CLOUD_PROJECT).",
   "# project = \"my-project\"",
   "",
   "# Topic to publish to, either short or `projects/<project>/topics/<topic>` (PUBSUB_TOPIC).",
   "topic = \"webhooks\"",
   "",
   "# Path the webhook is served on. With \"/\" every path is accepted (CUSTOM_HANDLER).",
   "handler_path = \"/\"",
   "",
   "# Largest accepted request body, in bytes.",
   "max_body_bytes = 1048576",
   "",
   "[expressions]",
   "# Decides whether a request is accepted; must evaluate to a boolean (CONTROL_CEL).",
   "#",
   "# Available variables:",
   "#   origin.ip                           caller address, without port",
   "#   request.body                        raw body as a string",
   "#   request.method, request.path, request.scheme, request.query",
   "#   request.json                        parsed body for JSON content types",
   "#   request.post                        form fields (lists of strings) for form bodies",
   "#   request.headers                     lower-cased header names",
   "#   request.unixtime                    seconds since the epoch",
   "#   request.time.\x7byear,month,day,hour,minute,second\x7d   UTC",
   "#",
   "# Custom functions: ipInRange(ip, cidr), parseJSON(text), parseJWT(key, token),",
   "# hmacSHA256(key, message), hmacSHA1(key, message), plus string helpers such as",
   "# substring, indexOf, lowerAscii, upperAscii, trim, replace and split.",
   "control = \"ipInRange(origin.ip, '10.0.0.0/8') || ipInRange(origin.ip, '127.0.0.0/8')\"",
   "",
   "# Turns the request into the message payload (MESSAGE_CEL). A map or list is",
   "# published as JSON; a string must itself contain JSON.",
   "message = \"request.json\"",
   "",
   "# Optional response body (RESPONSE_CEL). A string is sent verbatim, a map or list as",
   "# JSON. Without it, requests get an empty 200 response.",
   "# response = \"\x7b'status': 'queued'\x7d\""]

def text : String := "\n".intercalate lines ++ "\n"

/-- Where a template is put unless a path is given. -/
def defaultPath : String := "json2pubsub.toml"

end GatedRelay.Template
