import LogShipping.Device.Scripted
import LogShipping.Dispatcher.Station
import LogShipping.Proofs.Dispatcher.Registration
import LogShipping.Proofs.Sink.Steps

namespace LogShipping

variable {μ K ω : Type}

namespace LineSink

private theorem isConsole_countRefusal (now : Nat) (s : LineSink μ) :
    (s.countRefusal now).isConsole = s.isConsole := by
  unfold countRefusal
  cases hreport : (s.throttle.drop now).2 <;> simp [hreport, note]

private theorem isConsole_submit? {r : Record} {s s' : LineSink μ} (h : s.submit? r = some s') :
    s'.isConsole = s.isConsole := by
  obtain ⟨worker, -, rfl⟩ := Option.map_eq_some_iff.mp h
  rfl

private theorem isConsole_add (now : Nat) (r : Record) (s : LineSink μ) :
    (s.add now r).1.isConsole = s.isConsole := by
  unfold add
  split
  · rfl
  · cases hsubmit : s.submit? r with
    | some s' => exact isConsole_submit? hsubmit
    | none => exact isConsole_countRefusal now s

private theorem isConsole_askFlush (now : Nat) (tick : Tick) (timeout : Span) (s : LineSink μ) :
    (s.askFlush now tick timeout).1.isConsole = s.isConsole := by
  have hreport : (s.reportRefusals now).isConsole = s.isConsole := by
    unfold reportRefusals
    cases hreport : (s.throttle.flush now).2 <;> simp [hreport, note]
  unfold askFlush
  cases tick.add? timeout <;> exact hreport

private theorem isConsole_work? [Device μ] {s s' : LineSink μ} (h : s.work? = some s') :
    s'.isConsole = s.isConsole := by
  rw [(stepped_of_work? h).2]

private theorem Moved.isConsole {now : Nat} {point point' : Point} {s s' : Shared μ}
    (h : Moved now s point point' s') : s'.sink.isConsole = s.sink.isConsole := by
  cases h with
  | submit r sink room => exact isConsole_submit? room
  | refuse r full => exact isConsole_countRefusal now s.sink
  | ask wait => exact isConsole_askFlush now wait.tick wait.timeout s.sink
  | askLast wait => exact isConsole_askFlush now wait.tick wait.timeout s.sink
  | _ => rfl

namespace Service

private theorem isConsole_call (i now : Nat) (move : Move) (s : Service μ) :
    (s.call i now move).sink.isConsole = s.sink.isConsole := by
  rcases s.threads.step_cases (callStep now) i move with
    hstay | ⟨point, point', shared', -, hact, hstep⟩
  · simp [call, sink, hstay]
  · have hmoved := (moved_of_callStep hact).isConsole
    simpa [call, sink, hstep] using hmoved

theorem isConsole_step [Device μ] (event : Event μ) (s : Service μ) :
    (s.step event).sink.isConsole = s.sink.isConsole := by
  cases event with
  | call i now move =>
      simp only [step]
      split
      · rfl
      · exact isConsole_call i now move s
  | work =>
      simp only [step, work]
      cases hwork : s.sink.work? with
      | none => rfl
      | some sink => exact isConsole_work? hwork
  | device change => rfl
  | relayout layout =>
      simp only [step]
      split <;> rfl
  | drop =>
      simp only [step]
      split <;> rfl

end Service

end LineSink

namespace Station

def Setup.isConsole [Target K] : Setup μ K → Bool
  | stream _ _ _ _ isConsole _ => isConsole
  | other target => Target.isConsole target
  | _ => false

private theorem target?_reply (make : List Nat → Station μ K) (places : List Nat)
    (result : Option (Except Refusal Nat)) :
    ∃ places', (reply make places result).target? = some (make places') := by
  rcases result with _ | refusal | place
  · exact ⟨places, rfl⟩
  · exact ⟨places, rfl⟩
  · exact ⟨places ++ [place], rfl⟩

variable [Target K]

private theorem isConsole_build (setup : Setup μ K) :
    (build setup).isConsole = setup.isConsole := by
  cases setup <;> rfl

private theorem isConsole_of_reply (make : List Nat → Station μ K) {console : Bool}
    (hmake : ∀ places, (make places).isConsole = console) {places : List Nat}
    {result : Option (Except Refusal Nat)} {station : Station μ K}
    (h : (reply make places result).target? = some station) : station.isConsole = console := by
  obtain ⟨places', hreply⟩ := target?_reply make places result
  obtain rfl := Option.some.inj (hreply.symm.trans h)
  exact hmake places'

private theorem keepsConsole_perform [Device μ] {own : ω → K → K}
    (hown : Dispatcher.KeepsConsole own) : Dispatcher.KeepsConsole (perform (μ := μ) own) where
  offered now r station station' h := by
    have hoffer : (offer now r station).target? = some station' := h
    show isConsole station' = isConsole station
    cases station with
    | stream s places =>
        exact isConsole_of_reply (stream (s.handIn now r).1)
          (fun _ => LineSink.Service.isConsole_call 0 now _ s) hoffer
    | file s places => exact isConsole_of_reply (file (s.handIn now r).1) (fun _ => rfl) hoffer
    | uplink s places =>
        exact isConsole_of_reply (uplink (Uplink.handIn s now (Gelf.encode r)).1) (fun _ => rfl)
          hoffer
    | other target =>
        simp only [offer] at hoffer
        cases hreply : Target.offer now r target with
        | answered target' result =>
            rw [hreply] at hoffer
            obtain rfl := Option.some.inj hoffer
            exact hown.offered now r target (by rw [hreply]; rfl)
        | begun target' =>
            rw [hreply] at hoffer
            obtain rfl := Option.some.inj hoffer
            exact hown.offered now r target (by rw [hreply]; rfl)
        | notReady =>
            rw [hreply] at hoffer
            cases hoffer
  asked now station := by
    show isConsole (askFlush now station).1 = isConsole station
    cases station with
    | stream s places => exact LineSink.isConsole_askFlush now wait.tick wait.timeout s.sink
    | file s places => rfl
    | uplink s places => rfl
    | other target => exact hown.asked now target
  alone deed station := by
    show isConsole (perform own deed station) = isConsole station
    cases station with
    | stream s places =>
        cases deed with
        | call i now move => exact LineSink.Service.isConsole_step _ s
        | work => exact LineSink.Service.isConsole_step .work s
        | device change => exact LineSink.Service.isConsole_step (.device change) s
        | _ => rfl
    | file s places => cases deed <;> rfl
    | uplink s places => cases deed <;> rfl
    | other target =>
        cases deed with
        | other deed => exact hown.alone deed target
        | _ => rfl

end Station

namespace Outlet

private theorem isConsole_offer (now : Nat) (r : Record) {outlet outlet' : Outlet}
    (h : (outlet.offer now r).target? = some outlet') : outlet'.isConsole = outlet.isConsole := by
  cases outlet with
  | lines s =>
      obtain rfl := Option.some.inj h
      exact LineSink.isConsole_add now r s
  | gate isOpen =>
      cases isOpen with
      | true =>
          obtain rfl := Option.some.inj h
          rfl
      | false => cases h
  | _ =>
      obtain rfl := Option.some.inj h
      rfl

private theorem isConsole_askFlush (now : Nat) (outlet : Outlet) :
    (outlet.askFlush now).1.isConsole = outlet.isConsole := by
  cases outlet with
  | lines s => exact LineSink.isConsole_askFlush now .start patience s
  | _ => rfl

private theorem perform_add (now : Nat) (r : Record) (outlet : Outlet) :
    perform (.add now r) outlet = (outlet.offer now r).target?.getD outlet := by
  cases outlet with
  | gate isOpen => cases isOpen <;> rfl
  | _ => rfl

private theorem isConsole_perform (deed : Deed) (outlet : Outlet) :
    (perform deed outlet).isConsole = outlet.isConsole := by
  cases deed with
  | work =>
      cases outlet with
      | lines s =>
          show (s.work?.getD s).isConsole = s.isConsole
          cases hwork : s.work? with
          | none => rfl
          | some s' => exact LineSink.isConsole_work? hwork
      | _ => rfl
  | ship o => cases outlet <;> rfl
  | add now r =>
      rw [perform_add]
      cases htarget : (outlet.offer now r).target? with
      | none => rfl
      | some outlet' => exact isConsole_offer now r htarget
  | flush now =>
      cases outlet with
      | lines s => exact LineSink.isConsole_askFlush now .start patience s
      | _ => rfl

private theorem keepsConsole_perform : Dispatcher.KeepsConsole perform where
  offered now r _ _ h := isConsole_offer now r h
  asked := isConsole_askFlush
  alone := isConsole_perform

end Outlet

namespace Pipeline

open Dispatcher (LastConsole KeepsConsole Chronicle Turn)

variable [Target K]

def isConsole (p : Pipeline μ K) (place : Nat) : Bool :=
  p.setups[place]?.any Station.Setup.isConsole

theorem isConsoleAt_start (p : Pipeline μ K) :
    p.start.dispatcher.isConsoleAt = p.isConsole := by
  funext place
  show ((p.setups.map Station.build).map Watched.of)[place]?.any Target.isConsole = _
  rw [List.getElem?_map, List.getElem?_map, isConsole]
  cases p.setups[place]? with
  | none => rfl
  | some setup => exact Station.isConsole_build setup

/-- At every moment the registered places are those added since all were removed, in their order and
each as often as it was added, but for consoles that another console was added after. -/
theorem last_console_kept [Device μ] (p : Pipeline μ K) {own : ω → K → K} (hown : KeepsConsole own)
    (turns : List (Turn (Station.Deed μ ω))) :
    let registered := (p.reached own turns).dispatcher.registered
    let added := p.start.additions (Station.perform own) turns []
    LastConsole p.isConsole added registered ∧
      registered.filter p.isConsole = (added.filter p.isConsole).getLast?.toList ∧
      registered.filter (!p.isConsole ·) = added.filter (!p.isConsole ·) ∧
      registered.Sublist added := by
  intro registered added
  have hstart : LastConsole p.start.dispatcher.isConsoleAt [] p.start.dispatcher.registered :=
    .none fun a ha => absurd ha List.not_mem_nil
  have hrun := (Chronicle.registered_run (Station.keepsConsole_perform hown) turns hstart).2
  rw [isConsoleAt_start] at hrun
  exact ⟨hrun, hrun.consoles, hrun.others, hrun.sublist⟩

/-- Two consoles, of which the second is added again, and two other targets that are added twice, by
two callers and after everything was removed once. -/
theorem last_console_kept_mixed :
    let p : Pipeline Device.Scripted Outlet :=
      { origin := { host := "db", processId := 1, processName := "p" }
        setups := [.stream {} Record.message 8 0 true 1, .stream {} Record.message 8 0 false 1,
          .file { content := [] } Record.message 8 0 1, .other (.lines (.console {} 0))]
        capacity := 8, now := 0, callers := 2 }
    let turns : List (Turn (Station.Deed Device.Scripted Outlet.Deed)) :=
      [.caller 0 (.register 1), .caller 0 (.register 0), .caller 1 .unregisterAll,
        .caller 1 (.register 2), .caller 0 (.register 3), .caller 1 (.register 1),
        .target 3 (.other (.flush 1)), .caller 0 (.register 0), .worker, .caller 1 (.register 3),
        .caller 0 (.register 1), .caller 1 (.register 2)]
    let registered := (p.reached Outlet.perform turns).dispatcher.registered
    KeepsConsole Outlet.perform ∧ registered = [2, 1, 3, 1, 2] ∧
      registered.filter p.isConsole = [3] ∧ registered.filter (!p.isConsole ·) = [2, 1, 1, 2] := by
  intro p turns registered
  have hadded : p.start.additions (Station.perform Outlet.perform) turns [] =
      [2, 3, 1, 0, 3, 1, 2] := by
    decide +kernel
  obtain ⟨-, hconsoles, hothers, -⟩ := p.last_console_kept Outlet.keepsConsole_perform turns
  rw [hadded] at hconsoles hothers
  exact ⟨Outlet.keepsConsole_perform, by decide +kernel, hconsoles.trans (by decide),
    hothers.trans (by decide)⟩

end Pipeline

end LogShipping
