import HandlePool.Counters

/-!
# Scripts for counters
-/

namespace HandlePool
namespace CountersScript

/-- Events, each with the number of times it happens. -/
abbrev Step := CountedEvent × Nat

/-- The counters after each step, from given counters on. -/
def runFrom (counters : Counters) : List Step → List Counters
  | [] => []
  | (event, times) :: later =>
    let counters := counters.record event times
    counters :: runFrom counters later

/-- The counters after each step of a script. -/
def run (steps : List Step) : List Counters := runFrom .zero steps

end CountersScript
end HandlePool
