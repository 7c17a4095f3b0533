import GatedRelay.Text.Blank

/-!
Names of topics. A short name is qualified with a project.
-/

namespace GatedRelay

inductive TopicError
  | noTopic
  | noProject (topic : String)
  deriving DecidableEq

def TopicError.message : TopicError → String
  | noTopic => "no Pub/Sub topic was configured"
  | noProject topic => s!"a project is required to publish to topic '{topic}'"

namespace Topic

/-- How full names begin. -/
def fullStart : String := "projects/"

def qualify (project : Option String) (topic : String) : Except TopicError String :=
  let topic := Text.trimString topic
  if topic.isEmpty then .error .noTopic
  else if fullStart.toList.isPrefixOf topic.toList then .ok topic
  else
    match project with
    | none => .error (.noProject topic)
    | some p =>
      let p := Text.trimString p
      if p.isEmpty then .error (.noProject topic)
      else .ok (fullStart ++ p ++ "/topics/" ++ topic)

end Topic

end GatedRelay
