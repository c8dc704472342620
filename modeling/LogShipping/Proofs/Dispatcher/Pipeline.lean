import LogShipping.Device.Scripted
import LogShipping.Proofs.Dispatcher.Pledges

namespace LogShipping

variable {μ K ω : Type}

namespace Station

/-- What a successful flush tells of the record that was the `n`th taken: a sink has attempted its
line and flushed the device later, and the shipper of an uplink has taken the message. The uplink
counts accepted messages, and this is known as long as the count has not wrapped around. -/
def SeenThrough (n : Nat) (r : Record) : Station μ K → Prop
  | stream s places => ∃ place, places[n]? = some place ∧ s.Attempted place r
  | file s places => ∃ place, places[n]? = some place ∧ s.Attempted place r
  | uplink s places => ∃ place, places[n]? = some place ∧
      s.shared.order[place]? = some (Gelf.encode r) ∧
      (s.shared.accepted.length < UInt64.size → s.shared.shipped[place]? = some (Gelf.encode r))
  | other _ => True

private theorem holds_build (setup : Setup μ K) : (build setup).Holds [] := by
  cases setup with
  | stream device layout capacity now isConsole callers =>
      exact ⟨LineSink.Service.kept_start device layout capacity now _ isConsole _, rfl, .nil⟩
  | file device layout capacity now callers =>
      exact ⟨LineSink.Service.kept_start device layout capacity now _ false _, rfl, .nil⟩
  | uplink settings now threads =>
      exact ⟨Uplink.regular_start settings now _, List.nil_subset _, .nil⟩
  | other target => trivial

private theorem seenThrough_sink {s : LineSink.Service μ} {places : List Nat}
    {records : List Record} {ticket count n : Nat} {r : Record} (h : s.Holds places records)
    (hcovers : s.Covers places ticket count) (hanswer : s.sink.answer? ticket = some true)
    (hn : n < count) (hr : records[n]? = some r) :
    ∃ place, places[n]? = some place ∧ s.Attempted place r := by
  obtain ⟨place, hplace, layout, haccepted⟩ := related_of_getElem?_right h.places hr
  exact ⟨place, hplace,
    hcovers.guards.attempted h.kept hanswer (mem_take_of_getElem? hn hplace) haccepted⟩

variable [Target K]

private theorem seenThrough_of_answer {station : Station μ K} {records : List Record}
    {ticket count n : Nat} {r : Record} (h : station.Holds records)
    (hcovers : station.Covers ticket count) (hanswer : station.answer? ticket = some true)
    (hn : n < count) (hr : records[n]? = some r) : station.SeenThrough n r := by
  cases station with
  | stream s places | file s places => exact seenThrough_sink h hcovers hanswer hn hr
  | uplink s places =>
      have hheld : Uplink.Holds places records s := h
      have hcovered : Uplink.Covers places ticket count s := hcovers
      obtain ⟨place, hplace, horder⟩ := related_of_getElem?_right hheld.places hr
      exact ⟨place, hplace, horder, fun hfew =>
        hcovered.promises.shipped hheld.regular hfew hanswer (mem_take_of_getElem? hn hplace)
          horder⟩
  | other target => trivial

end Station

namespace Pipeline

open Dispatcher (Chronicle Turn FlushOutcome handedIn completed taken)
open Dispatcher.Chronicle (run_append_cons offers_of_returns asked_of_returns returns_resume
  returns_giveUp_of_underway)

variable [Device μ] [Target K]

theorem sound_reached (own : ω → K → K) (turns : List (Turn (Station.Deed μ ω)))
    (p : Pipeline μ K) :
    (p.reached own turns).Sound p.origin (fun w => w.target.Holds (taken w.offers))
      fun station ticket count => station.Covers ticket count := by
  refine (Chronicle.sound_start ?_ p.capacity p.now p.callers).run (Station.pledge own) turns
  intro station hmem
  obtain ⟨setup, -, rfl⟩ := List.mem_map.mp hmem
  exact Station.holds_build setup

/-- The target `w` at `place` has been offered the record admitted as number `k`, as often as the
record was sent to it, and what it took has been seen through. -/
def CarriedThrough (place k : Nat) (r : Record) (w : Watched (Station μ K))
    (c : Chronicle (Station μ K)) : Prop :=
  c.offersTo place k < c.offersTo place (k + 1) ∧
    ∀ m, c.offersTo place k ≤ m → m < c.offersTo place (k + 1) →
      ∃ result, w.offers[m]? = some (r, result) ∧
        (result = .ok () → w.target.SeenThrough (taken (w.offers.take m)).length r)

variable {own : ω → K → K} {p : Pipeline μ K} {before during : List (Turn (Station.Deed μ ω))}
  {i time : Nat} {tick : Tick} {timeout : Span}

private theorem carriedThrough_of_returns {earlier later : List (Turn (Station.Deed μ ω))}
    {j logged : Nat} {draft : Draft} {entry : Draft × Fields} {move : Dispatcher.Move}
    {promised place : Nat} {w : Watched (Station μ K)}
    (hhanded : handedIn (.caller j (.log logged draft) : Turn (Station.Deed μ ω))
      (p.reached own earlier).threads = [entry])
    (hidle : (p.reached own
      (earlier ++ .caller j (.log logged draft) :: later)).threads.points[i]? = some .idle)
    (hbusy : ∀ part, part <+: during → (p.reached own
      (earlier ++ .caller j (.log logged draft) ::
        (later ++ .caller i (.flush time tick timeout) :: part))).threads.points[i]? ≠ some .idle)
    (hplace : ∀ part, part <+: later ++ .caller i (.flush time tick timeout) :: during →
      place ∈ (p.reached own
        (earlier ++ .caller j (.log logged draft) :: part)).dispatcher.registered)
    (hreturns : (p.reached own (earlier ++ .caller j (.log logged draft) ::
      (later ++ .caller i (.flush time tick timeout) :: during))).Returns (Station.perform own) i
        move ⟨promised, true⟩)
    (hw : (p.reached own (earlier ++ .caller j (.log logged draft) ::
      (later ++ .caller i (.flush time tick timeout) :: during))).dispatcher.targets[place]? =
        some w) :
    CarriedThrough place (p.reached own earlier).admitted.length (completed p.origin entry) w
      (p.reached own (earlier ++ .caller j (.log logged draft) ::
        (later ++ .caller i (.flush time tick timeout) :: during))) := by
  let c := (p.reached own earlier).step (Station.perform own) (.caller j (.log logged draft))
  have hrun (part : List (Turn (Station.Deed μ ω))) :
      p.reached own (earlier ++ .caller j (.log logged draft) :: part) =
        c.run (Station.perform own) part := run_append_cons _ _ _ _ _
  have hearlier := sound_reached own earlier p
  have hc := hearlier.step (Station.pledge own) (.caller j (.log logged draft))
  have hlast := sound_reached own (earlier ++ .caller j (.log logged draft) ::
    (later ++ .caller i (.flush time tick timeout) :: during)) p
  have hentry : c.admitted[(p.reached own earlier).admitted.length]? = some entry := by
    have hadmitted : c.admitted = (p.reached own earlier).admitted ++ [entry] :=
      congrArg ((p.reached own earlier).admitted ++ ·) hhanded
    rw [hadmitted, List.getElem?_concat_length]
  have hunsent : c.dispatched.length ≤ (p.reached own earlier).admitted.length := by
    have hdispatched : c.dispatched = (p.reached own earlier).dispatched := List.append_nil _
    rw [hdispatched]
    exact hearlier.kept.length_le
  simp only [hrun] at hidle hbusy hplace hreturns hw hlast ⊢
  obtain ⟨hsome, hall⟩ := offers_of_returns (Station.pledge own) hc hentry hunsent hidle hbusy
    hreturns hplace hw
  refine ⟨hsome, fun m hm hm' => ?_⟩
  obtain ⟨result, hoffer, hok⟩ := hall m hm hm'
  refine ⟨result, hoffer, fun htook => ?_⟩
  obtain ⟨ticket, count, hcovers, hcount, hanswer⟩ := hok htook
  rw [htook] at hoffer
  exact Station.seenThrough_of_answer (hlast.targets place w hw) hcovers hanswer hcount
    (Dispatcher.getElem?_taken hoffer)

/-- When a flush returns true that caller `i` began after `before`, every record admitted by a log
call before it has been carried through every target registered from that call on. And the barrier
of the flush had been reached, and all targets registered then have answered true: so if one of them
fails, wherever it stands, the flush returns false. It does return once all of them are over, and
before that it returns false whenever its time is up. -/
theorem flush_covers (own : ω → K → K) (p : Pipeline μ K)
    (before during : List (Turn (Station.Deed μ ω))) (i time : Nat) (tick : Tick) (timeout : Span)
    (hidle : (p.reached own before).threads.points[i]? = some .idle)
    (hbusy : ∀ part, part <+: during → (p.reached own
      (before ++ .caller i (.flush time tick timeout) :: part)).threads.points[i]? ≠ some .idle) :
    let flush : Turn (Station.Deed μ ω) := .caller i (.flush time tick timeout)
    let last := p.reached own (before ++ flush :: during)
    (∀ move promised, last.Returns (Station.perform own) i move ⟨promised, true⟩ →
      (∀ earlier later j logged draft entry place w,
        before = earlier ++ .caller j (.log logged draft) :: later →
        handedIn (.caller j (.log logged draft) : Turn (Station.Deed μ ω))
          (p.reached own earlier).threads = [entry] →
        (∀ part, part <+: later ++ flush :: during → place ∈ (p.reached own
          (earlier ++ .caller j (.log logged draft) :: part)).dispatcher.registered) →
        last.dispatcher.targets[place]? = some w →
        CarriedThrough place (p.reached own earlier).admitted.length (completed p.origin entry) w
          last) ∧
      ∃ part asked, part <+: during ∧
        (p.reached own (before ++ flush :: part)).dispatcher.isReached
          (p.reached own before).dispatcher.tickets = true ∧
        (asked.map Prod.fst).Perm (p.reached own (before ++ flush :: part)).dispatcher.registered ∧
        last.threads.points[i]? = some (.flushing [] asked promised) ∧
        ∀ place ticket, (place, ticket) ∈ asked → last.dispatcher.hasFlushed place ticket = true) ∧
    (∃ promised, last.Returns (Station.perform own) i .giveUp ⟨promised, false⟩) ∧
    ∀ asked promised place ticket,
      last.threads.points[i]? = some (.flushing [] asked promised) → (place, ticket) ∈ asked →
      last.dispatcher.hasFlushed place ticket = false →
      (last.dispatcher.outcome? asked).isSome = true →
      last.Returns (Station.perform own) i .resume ⟨promised, false⟩ := by
  intro flush last
  have hstart : p.start.Kept p.origin := (sound_reached own [] p).kept
  refine ⟨fun move promised hreturns => ⟨?_, ?_⟩, ?_, ?_⟩
  · intro earlier later j logged draft entry place w hbefore hhanded hplace hw
    subst hbefore
    have hjoin (part : List (Turn (Station.Deed μ ω))) :
        earlier ++ .caller j (.log logged draft) :: later ++ part =
          earlier ++ .caller j (.log logged draft) :: (later ++ part) := by
      rw [List.append_assoc, List.cons_append]
    simp only [hjoin] at hbusy
    simp only [last, hjoin] at hreturns hw ⊢
    exact carriedThrough_of_returns hhanded hidle hbusy hplace hreturns hw
  · obtain ⟨-, part, asked, within, hreached, all, hpoint, hflushed⟩ :=
      asked_of_returns hstart hidle hbusy hreturns
    exact ⟨part, asked, within, hreached, all, hpoint, hflushed⟩
  · exact returns_giveUp_of_underway hstart hidle hbusy
  · intro asked promised place ticket hpoint hmem hfailed hover
    obtain ⟨flushed, hflushed⟩ := Option.isSome_iff_exists.mp hover
    cases flushed with
    | true =>
        have hall := Chronicle.hasFlushed_of_outcome hflushed hmem
        rw [hfailed] at hall
        cases hall
    | false => exact returns_resume hpoint hflushed

/-- A sink, an uplink and a collector, which are not asked in the order they were registered in.
Somebody else sends a message to the uplink while the dispatcher hands its own in. -/
theorem flush_covers_three_kinds :
    let draft : Draft :=
      { severity := .error, message := "a", thread := "t", time := { seconds := 0, nanos := 0 }
        fields := [] }
    let p : Pipeline Device.Scripted Outlet :=
      { origin := { host := "db", processId := 1, processName := "p" }
        setups := [.stream {} Record.message 8 0 false 1, .uplink (.forServer "logs" 12201) 0 1,
          .other (.collector {})]
        capacity := 8, now := 0, callers := 2 }
    let r : Record := draft.complete p.origin []
    let registers : List (Turn (Station.Deed Device.Scripted Outlet.Deed)) :=
      [.caller 0 (.register 0), .caller 0 (.register 1), .caller 0 (.register 2)]
    let during : List (Turn (Station.Deed Device.Scripted Outlet.Deed)) := List.flatten
      [List.replicate 5 .worker,
        [.target 1 (.turn (.caller 0 (.send 1 "x"))), .target 1 (.turn (.caller 0 .resume)), .worker,
          .target 1 (.turn (.caller 0 .resume))],
        List.replicate 5 .worker,
        [.caller 1 .resume, .caller 1 (.ask 2 3), .caller 1 (.ask 0 3), .caller 1 (.ask 0 3)],
        List.replicate 8 (.target 0 .work),
        List.replicate 4 (.target 1 (.turn (.caller 1 .resume))),
        [.target 1 (.turn .relay), .target 1 (.turn .relay),
          .target 1 (.turn (.network
            { tick := .start, found := some (.ok [⟨.v4 #v[127, 0, 0, 1], 12201⟩]) })),
          .target 1 (.turn (.network { tick := .start, reachable := fun _ => true }))],
        List.replicate 3 (.target 1 (.turn (.network { tick := .start })))]
    let last := p.reached Outlet.perform (registers ++ [.caller 0 (.log 1 draft)] ++
      .caller 1 (.flush 2 .start (.ofSeconds 1)) :: during)
    last.Returns (Station.perform Outlet.perform) 1 .resume ⟨1, true⟩ ∧
      ∀ place < 3, ∃ w, last.dispatcher.targets[place]? = some w ∧ w.offers = [(r, .ok ())] ∧
        w.target.SeenThrough 0 r := by
  intro draft p r registers during last
  have hreturns : last.Returns (Station.perform Outlet.perform) 1 .resume ⟨1, true⟩ := by
    unfold Chronicle.Returns
    decide +kernel
  have hbusy : ∀ part ∈ during.inits, (p.reached Outlet.perform
      (registers ++ [.caller 0 (.log 1 draft)] ++
        .caller 1 (.flush 2 .start (.ofSeconds 1)) :: part)).threads.points[1]? ≠ some .idle := by
    decide +kernel
  have hplaced : ∀ part ∈ (.caller 1 (.flush 2 .start (.ofSeconds 1)) :: during).inits,
      ∀ place < 3, place ∈ (p.reached Outlet.perform
        (registers ++ .caller 0 (.log 1 draft) :: part)).dispatcher.registered := by
    decide +kernel
  have hoffers : last.dispatcher.targets.map Watched.offers = List.replicate 3 [(r, .ok ())] := by
    decide +kernel
  have hidle : (p.reached Outlet.perform
      (registers ++ [.caller 0 (.log 1 draft)])).threads.points[1]? = some .idle := by
    decide +kernel
  have hhanded : handedIn
      (.caller 0 (.log 1 draft) : Turn (Station.Deed Device.Scripted Outlet.Deed))
      (p.reached Outlet.perform registers).threads = [(draft, [])] := by
    decide +kernel
  have hfirst : (p.reached Outlet.perform registers).admitted.length = 0 := by decide +kernel
  clear_value during registers p
  have hmain := flush_covers Outlet.perform p (registers ++ [.caller 0 (.log 1 draft)]) during 1 2
    .start (.ofSeconds 1) hidle fun part hpart => hbusy part ((List.mem_inits part during).mpr hpart)
  obtain ⟨hcovers, -⟩ := hmain.1 .resume 1 hreturns
  refine ⟨hreturns, fun place hplace => ?_⟩
  have hoffered := congrArg (fun offers => offers[place]?) hoffers
  simp only [List.getElem?_map, List.getElem?_replicate_of_lt hplace] at hoffered
  obtain ⟨w, hw, hone⟩ := Option.map_eq_some_iff.mp hoffered
  obtain ⟨hsome, hall⟩ := hcovers registers [] 0 1 draft (draft, []) place w rfl hhanded
    (fun part hpart => hplaced part ((List.mem_inits part _).mpr hpart) place hplace) hw
  rw [hfirst, Chronicle.offersTo_zero] at hall hsome
  obtain ⟨result, hoffer, hok⟩ := hall 0 (Nat.le_refl 0) hsome
  rw [hone] at hoffer hok
  obtain rfl : .ok () = result := congrArg Prod.snd (Option.some.inj hoffer)
  exact ⟨w, hw, hone, hok rfl⟩

end Pipeline

end LogShipping
