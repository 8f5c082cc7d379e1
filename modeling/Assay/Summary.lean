import Assay.Checker
import Assay.Text.Quoted

/-!
# Summaries — what a host reads in its logs

A checker is written in one line, which names the settings, the filters that have hooks, and which
collaborators there are.  What happens to hooks leaves lines as well, and references to entities
have a short form.
-/

namespace Assay

/-! ## Checkers -/

def Settings.summary (settings : Settings) : String :=
  "CheckConfig \x7b max_depth: " ++ toString settings.maxDepth ++ ", int_bound: "
    ++ toString settings.intBound.toInt ++ " \x7d"

def HookRegistry.summary (registry : HookRegistry) : String :=
  "HookRegistry \x7b names: [" ++ ", ".intercalate (registry.names.map Text.quoted) ++ "] \x7d"

def flagWord (flag : Bool) : String := if flag then "true" else "false"

def Checker.summary (checker : Checker) (world : World) : String :=
  "Checker \x7b config: " ++ checker.settings.summary ++ ", hooks: " ++ checker.registry.summary
    ++ ", entities: " ++ flagWord world.store.isSome ++ ", conditions: "
    ++ flagWord checker.normalizer.isSome ++ " \x7d"

/-! ## Events and references -/

def HookEvent.line? (event : HookEvent) : Option String :=
  let hook := event.registration.hook
  match event.stage with
  | .call => hook.label.map (· ++ ":call")
  | .registered => if hook.onlyCalls then none else hook.label.map (· ++ ":initialize")
  | .shutdown => if hook.onlyCalls then none else hook.label.map (· ++ ":shutdown")

def EntityRef.display : EntityRef → String
  | uri u => u
  | id i => "#" ++ i
  | derive proto parent => parent.getD "" ++ "<-" ++ proto

end Assay
