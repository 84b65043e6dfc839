import VariableExplorer.Suggestion.Provider
import VariableExplorer.Replica.Basic
import VariableExplorer.Settings.Basic
import VariableExplorer.Subscription.Basic

/-!
Workspaces: a replica and a provider over one session, set up by the settings. The replica
subscribes to the session before the provider is made.
-/

namespace VariableExplorer

structure Workspace (ι : Type) where
  replica : Replica ι
  provider : Provider
  deriving Inhabited

namespace Workspace

variable {κ ι : Type}

/-- Subscribes a replica to a session and makes the provider beside it. Settings that cannot be read
end this where they are needed. -/
def setUp (settings : Settings) (vars : Variables) (subscribers : Subscribers κ) (replica : κ) :
    Subscribers κ × Except Settings.Fault (Workspace ι) :=
  match settings.refreshTimeout vars with
  | .error f => (subscribers, .error f)
  | .ok refreshTimeout =>
    (subscribers.add replica, do
      let waitTimeout ← settings.waitTimeout vars
      let maxResults ← settings.maxResults vars
      return {
        replica := { timeout := some (.real refreshTimeout) }
        provider := { waitTimeout := .real waitTimeout, maxResults := maxResults } })

def close [BEq κ] (w : Workspace ι) (subscribers : Subscribers κ) (replica : κ) :
    Subscribers κ × Workspace ι :=
  (subscribers.cancel replica, { w with provider := { w.provider with closed := true } })

end Workspace

end VariableExplorer
