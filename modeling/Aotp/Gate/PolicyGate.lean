import Aotp.Gate.LiveChecks

/-!
# The policy gate

* `evaluate` — the decision on one objective: allowed, or denied with its reasons.
-/

namespace Aotp.Gate

open PyData

variable (rt : Runtime)

/-- All reasons against an objective under an accepted scope. -/
def gateReasons (parsedScope : ScopeConfig) (scope objective : Dict) (input : GateInput) :
    Except Exc (List String) := do
  let dry ← dryReasons rt scope objective input
  let live ← onlyWhen input.live (liveReasons rt parsedScope scope objective input)
  pure (dry ++ live)

/-- **The policy gate.** A scope that does not parse denies with the parser's message; otherwise
the reasons decide.
Source: `policy_gate.evaluate` -/
def evaluate (scope : Option Dict) (objective : Dict) (input : GateInput) :
    Except Exc PolicyDecision :=
  match scope with
  | none => .ok ⟨false, ["scope is missing"]⟩
  | some scope =>
    match parseScope scope with
    | .error (.custom "ConfigError" msg) => .ok ⟨false, [msg]⟩
    | .error e => .error e
    | .ok parsedScope => do
      let reasons ← gateReasons rt parsedScope scope objective input
      pure ⟨reasons.isEmpty, fromkeys reasons⟩

end Aotp.Gate
