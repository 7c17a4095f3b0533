import GatedRelay.Config.Settings
import GatedRelay.Expr.ProgramSet
import GatedRelay.Publish.Topic

/-!
Why a command fails. A cause from outside, such as a file that cannot be read, is shown as an
asterisk, and the context says what was being done.
-/

namespace GatedRelay

inductive StartupError
  | unreadableConfig (path : String)
  | badConfig (path : String)
  | secret (f : SecretFailure)
  | settings (e : SettingsError)
  | program (e : Expr.ProgramError)
  | topic (e : TopicError)
  | notBound (host : String) (port : Nat)
  | occupied (path : String)
  | unwritable (path : String)
  deriving DecidableEq

namespace StartupError

def message : StartupError → String
  | unreadableConfig _ | badConfig _ | notBound _ _ | unwritable _ => "*"
  | secret f => f.cause.message
  | settings e => e.message
  | program e => e.message
  | topic e => e.message
  | occupied path => s!"refusing to overwrite existing file '{path}'"

/-- What was being done, the innermost first. -/
def context : StartupError → List String
  | unreadableConfig path => [s!"reading json2pubsub configuration file '{path}'"]
  | badConfig path => [s!"parsing configuration file '{path}'"]
  | secret f => f.cause.context ++ [s!"unable to access secret '{f.name}'"]
  | notBound host port => [s!"binding to {host}:{Numeral.decimalString port}"]
  | unwritable path => [s!"writing default configuration to {path}"]
  | settings _ | program _ | topic _ | occupied _ => []

end StartupError

end GatedRelay
