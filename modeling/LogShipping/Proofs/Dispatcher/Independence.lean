import LogShipping.Proofs.Dispatcher.Dispatch

namespace LogShipping

structure Taker where
  isConsole : Bool

instance : Target Taker where
  offer _ _ t := .answered t (.ok ())
  askFlush _ t := (t, none)
  answer? _ _ := none
  settle t := t
  waiting _ := 0
  isConsole := Taker.isConsole

variable {H H' ω : Type}

namespace Worker

variable {J σ σ' : Type}

def Progress.map (f : σ → σ') : Progress J σ → Progress J σ'
  | finished scene => .finished (f scene)
  | left job scene => .left job (f scene)
  | waiting => .waiting
  | panicked scene => .panicked (f scene)

end Worker

namespace Dispatcher

/-! The same state, with another target in place of each. -/

def Scene.map (f : H → H') (scene : Scene H) : Scene H' where
  now := scene.now
  origin := scene.origin
  targets := scene.targets.map f
  registered := scene.registered
  reached := scene.reached

def map (f : H → H') (d : Dispatcher H) : Dispatcher H' where
  threshold := d.threshold
  base := d.base
  capacity := d.capacity
  throttle := d.throttle
  worker := d.worker
  scene := d.scene.map f
  tickets := d.tickets
  journal := d.journal

def Shared.map (f : H → H') (s : Shared H) : Shared H' :=
  ⟨s.dispatcher.map f, s.taken, s.flushes⟩

/-- The target with what it was offered, as one that had taken all of it. -/
def unanswered [Target H] (w : Watched H) : Watched Taker :=
  ⟨⟨Target.isConsole w.target⟩, w.offers.map fun (r, _) => (r, .ok ())⟩

def Turn.isFlush : Turn ω → Bool
  | caller _ (.flush ..) => true
  | _ => false

variable [Target H] {own : ω → H → H} {P : H → Prop}

end Dispatcher

end LogShipping
