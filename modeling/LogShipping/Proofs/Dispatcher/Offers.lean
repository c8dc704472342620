import LogShipping.Dispatcher.Outlet
import LogShipping.Proofs.Dispatcher.Independence

namespace LogShipping

namespace Dispatcher.Chronicle

variable {H H' ω : Type} [Target H] [Target H']

end Dispatcher.Chronicle

end LogShipping
