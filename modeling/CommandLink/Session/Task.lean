import CommandLink.Endpoint.Slot

/-! # Calls under way in a session -/

namespace CommandLink
namespace Session

/-- A call on a thread of its own. -/
structure Task (κ ρ : Type) where
  /-- The name under which its result is asked for; the call of a step has none. -/
  name : Option String
  call : κ
  /-- When the call came to where it is, in nanoseconds of the session's clock. -/
  since : Nat
  result : Option ρ

namespace Task

def isNamed (name : Option String) (t : Task κ ρ) : Bool := t.name == name

/-- Takes the outcome of a step into a task. Nothing happens if the call waits. -/
def note (t : Task κ ρ) (clock : Nat) : Progress κ ρ → Option (Task κ ρ)
  | .done result => some { t with result := some result }
  | .next call => some { t with call := call, since := clock }
  | .blocked => none

/-- Takes the first task that can go on one step further. -/
def advance (step : ε → κ → ε × Progress κ ρ) (clock : Nat) (e : ε) :
    List (Task κ ρ) → Option (ε × List (Task κ ρ))
  | [] => none
  | t :: rest =>
    let own := match t.result with
      | some _ => none
      | none =>
        let (e', progress) := step e t.call
        (t.note clock progress).map (e', · :: rest)
    match own with
    | some r => some r
    | none => (advance step clock e rest).map fun (e', rest') => (e', t :: rest')

end Task
end Session
end CommandLink
