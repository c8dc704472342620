import LogShipping.Dispatcher.Outlet
import LogShipping.Proofs.Dispatcher.Offers
import LogShipping.Proofs.Gelf.Faithful
import Mathlib.Data.List.Induction

namespace LogShipping.Dispatcher

variable {H ω : Type}

def addedIn (turn : Turn ω) (s : Threads (Shared H) Point) : Fields :=
  match turn with
  | .caller i (.addField key value) =>
    if s.points[i]? = some .idle then [(key, value)] else []
  | _ => []

variable [Target H]

namespace Chronicle

def added (own : ω → H → H) : List (Turn ω) → Chronicle H → Fields
  | [], _ => []
  | turn :: rest, c => addedIn turn c.threads ++ added own rest (c.step own turn)

end Chronicle

end LogShipping.Dispatcher
