import LogShipping.Proofs.Json.NoControl
import LogShipping.Proofs.Lists
import LogShipping.Proofs.Network.Splitting
import LogShipping.Proofs.Uplink.FlushSoundness
import LogShipping.Uplink.Intake

namespace LogShipping

private theorem Gelf.delimiter_notMem_encode (r : Record) :
    Network.delimiter ∉ Text.utf8 (Gelf.encode r) := by
  apply Text.zero_notMem_utf8
  intro c hmem
  rw [Gelf.encode, String.toList_ofList] at hmem
  have hcontrol := Json.Document.noControl_render (Gelf.document r) c hmem
  omega

namespace Uplink.Intake

open Network

def Point.core : Point → Uplink.Point
  | admitted r => .admitted (Gelf.encode r)
  | stored _ place => .stored place
  | other point => point

/-- The uplink's threads, which know of texts only. -/
def core (s : Threads Shared Point) : Threads Uplink.Shared Uplink.Point :=
  ⟨s.shared.core, s.points.map Point.core⟩

/-- The record that a thread has stored and has not been told of. -/
def Point.untold? : Point → Option Record
  | stored r _ => some r
  | _ => none

inductive Effect (s : Shared) : Point → Point → Shared → Prop
  | grant (now : Nat) (r : Record) {uplink : Uplink} (room : s.core.uplink.admit? = some uplink) :
      Effect s (.other .idle) (.admitted r) (s.onUplink fun _ => uplink)
  | refuse (now : Nat) (r : Record) (full : s.core.uplink.admit? = none) :
      Effect s (.other .idle) (.other .idle)
        ((s.onUplink (countRefusal now)).tell r (.error .queueFull))
  | store (r : Record) : Effect s (.admitted r) (.stored r s.core.order.length) (s.store r)
  | tell (r : Record) (place : Nat) :
      Effect s (.stored r place) (.other .idle)
        ({ s with core := s.core.countAccepted place }.tell r (.ok ()))
  | other {move : Uplink.Move} {point point' : Uplink.Point} {core : Uplink.Shared}
      (hsend : ∀ now message, move ≠ .send now message)
      (acts : Uplink.act move point s.core = some (point', core)) :
      Effect s (.other point) (.other point') { s with core }

private theorem effect_of_otherStep {move : Uplink.Move} {point : Uplink.Point} {s s' : Shared}
    {point' : Point} (hsend : ∀ now message, move ≠ .send now message)
    (h : otherStep move point s = some (point', s')) : Effect s (.other point) point' s' := by
  simp only [otherStep, Option.map_eq_some_iff, Prod.exists, Prod.mk.injEq] at h
  obtain ⟨next, core, acts, rfl, rfl⟩ := h
  exact .other hsend acts

private theorem effect_of_act {move : Move} {point point' : Point} {s s' : Shared}
    (h : act move point s = some (point', s')) : Effect s point point' s' := by
  cases point with
  | admitted r =>
      cases move with
      | resume =>
          simp only [act, Option.some.injEq, Prod.mk.injEq] at h
          obtain ⟨rfl, rfl⟩ := h
          exact .store r
      | _ => simp [act] at h
  | stored r place =>
      cases move with
      | resume =>
          simp only [act, Option.some.injEq, Prod.mk.injEq] at h
          obtain ⟨rfl, rfl⟩ := h
          exact .tell r place
      | _ => simp [act] at h
  | other point =>
      cases move with
      | add now r =>
          cases point with
          | idle =>
              cases hadmit : s.core.uplink.admit? with
              | some uplink =>
                  simp only [act, hadmit, Option.some.injEq, Prod.mk.injEq] at h
                  obtain ⟨rfl, rfl⟩ := h
                  exact .grant now r hadmit
              | none =>
                  simp only [act, hadmit, Option.some.injEq, Prod.mk.injEq] at h
                  obtain ⟨rfl, rfl⟩ := h
                  exact .refuse now r hadmit
          | _ => simp [act] at h
      | flush now => exact effect_of_otherStep (by simp) h
      | resume => exact effect_of_otherStep (by simp) h
      | giveUp => exact effect_of_otherStep (by simp) h

private theorem Effect.core {s s' : Shared} {point point' : Point} (h : Effect s point point' s') :
    ∃ move, Uplink.act move point.core s.core = some (point'.core, s'.core) := by
  cases h with
  | grant now r room =>
      have hempty : (Gelf.encode r).isEmpty = false := by
        simpa using Gelf.encode_ne_empty r
      refine ⟨.send now (Gelf.encode r), ?_⟩
      simp [Uplink.act, Point.core, hempty, room, Shared.onUplink]
  | refuse now r full =>
      have hempty : (Gelf.encode r).isEmpty = false := by
        simpa using Gelf.encode_ne_empty r
      refine ⟨.send now (Gelf.encode r), ?_⟩
      simp [Uplink.act, Point.core, hempty, full, Shared.onUplink, Shared.tell]
  | store r => exact ⟨.resume, rfl⟩
  | tell r place => exact ⟨.resume, rfl⟩
  | @other move _ _ _ hsend acts => exact ⟨move, acts⟩

private theorem taken_core (turn : Turn) (s : Threads Shared Point) :
    Uplink.Taken (core s) (core (turn.take s)) := by
  cases turn with
  | caller i move =>
      change Uplink.Taken (core s) (core (s.step act i move))
      rcases Threads.step_cases act i move s with hrest | hmove
      · rw [hrest]
        exact .rest
      · obtain ⟨point, point', shared', hpoint, hact, hstep⟩ := hmove
        obtain ⟨move', hcore⟩ := (effect_of_act hact).core
        have hset : core (s.step act i move) =
            ⟨shared'.core, (s.points.map Point.core).set i point'.core⟩ := by
          rw [hstep, core, List.map_set]
        have hpoint' : (core s).points[i]? = some point.core := by
          simp [core, hpoint]
        rw [hset]
        exact .caller hpoint' (Uplink.effect_of_act hcore)
  | relay =>
      change Uplink.Taken (core s)
        ⟨(s.shared.onUplink fun u => u.relayStep?.getD u).core, (core s).points⟩
      cases hrelay : s.shared.core.uplink.relayStep? with
      | none =>
          have hsame : (s.shared.onUplink fun u => u.relayStep?.getD u).core = s.shared.core := by
            simp [Shared.onUplink, hrelay]
          rw [hsame]
          exact .rest
      | some uplink =>
          have hmoved : (s.shared.onUplink fun u => u.relayStep?.getD u).core =
              { s.shared.core with uplink } := by
            simp [Shared.onUplink, hrelay]
          rw [hmoved]
          exact .relay (relayed_of_relayStep? hrelay)
  | network o => exact .network o

/-- What every turn keeps: the texts stored are those of the records, and a record is stored if its
thread was told so or will be. -/
structure Filed (s : Threads Shared Point) : Prop where
  accounted : Accounted (core s)
  order_eq : s.shared.core.order = s.shared.stored.map Gelf.encode
  others : ∀ point, .other point ∈ s.points → point = .idle ∨ point.promised?.isSome
  told : (s.points.filterMap Point.untold? ++ s.shared.accepted).Perm s.shared.stored
  alone : s.points.length = 1 →
    s.shared.accepted ++ s.points.filterMap Point.untold? = s.shared.stored

@[simp] theorem accepted_tell_ok (r : Record) (s : Shared) :
    (s.tell r (.ok ())).accepted = s.accepted ++ [r] := by
  simp [Shared.accepted, Shared.tell]

@[simp] theorem accepted_tell_error (r : Record) (e : Refusal) (s : Shared) :
    (s.tell r (.error e)).accepted = s.accepted := by
  simp [Shared.accepted, Shared.tell]

private theorem order_of_other {move : Uplink.Move} {point point' : Uplink.Point}
    {s s' : Uplink.Shared} (h : Uplink.Effect s move point point' s')
    (hpoint : point = .idle ∨ point.promised?.isSome) : s'.order = s.order := by
  rcases h.storage_cases with ⟨message, rfl, -⟩ | ⟨horder, -⟩
  · rcases hpoint with hidle | hpromised
    · cases hidle
    · cases hpromised
  · exact horder

private theorem point_of_other {move : Uplink.Move} {point point' : Uplink.Point}
    {s s' : Uplink.Shared} (h : Uplink.Effect s move point point' s')
    (hsend : ∀ now message, move ≠ .send now message)
    (hpoint : point = .idle ∨ point.promised?.isSome) :
    point' = .idle ∨ point'.promised?.isSome := by
  rcases hpoint with rfl | hpromised
  · cases h with
    | sendEmpty now message => exact .inl rfl
    | grant now message hmessage room => exact absurd rfl (hsend now message)
    | refuse now message throttle shipper full same => exact .inl rfl
    | startFlush now throttle shipper same => exact .inr rfl
  · obtain ⟨promised, hsome⟩ := Option.isSome_iff_exists.mp hpromised
    rcases h.promised?_eq hsome with hidle | hkept
    · exact .inl hidle
    · exact .inr (by rw [hkept]; rfl)

theorem Effect.filing_cases {s s' : Shared} {point point' : Point} (h : Effect s point point' s')
    (hother : ∀ p, point = .other p → p = .idle ∨ p.promised?.isSome) :
    (∃ r, point.untold? = none ∧ point'.untold? = some r ∧
      s'.core.order = s.core.order ++ [Gelf.encode r] ∧ s'.stored = s.stored ++ [r] ∧
      s'.accepted = s.accepted) ∨
    (∃ r, point.untold? = some r ∧ point'.untold? = none ∧ s'.core.order = s.core.order ∧
      s'.stored = s.stored ∧ s'.accepted = s.accepted ++ [r]) ∨
    (point.untold? = none ∧ point'.untold? = none ∧ s'.core.order = s.core.order ∧
      s'.stored = s.stored ∧ s'.accepted = s.accepted) := by
  cases h with
  | store r => exact .inl ⟨r, rfl, rfl, rfl, rfl, rfl⟩
  | tell r place => exact .inr (.inl ⟨r, rfl, rfl, rfl, rfl, accepted_tell_ok r _⟩)
  | grant now r room => exact .inr (.inr ⟨rfl, rfl, rfl, rfl, rfl⟩)
  | refuse now r full => exact .inr (.inr ⟨rfl, rfl, rfl, rfl, accepted_tell_error r _ _⟩)
  | @other move p p' core hsend acts =>
      have horder := order_of_other (Uplink.effect_of_act acts) (hother p rfl)
      exact .inr (.inr ⟨rfl, rfl, horder, rfl, rfl⟩)

private theorem Effect.others {s s' : Shared} {point point' : Point} (h : Effect s point point' s')
    (hother : ∀ p, point = .other p → p = .idle ∨ p.promised?.isSome) :
    ∀ p, point' = .other p → p = .idle ∨ p.promised?.isSome := by
  intro p hp
  cases h with
  | grant now r room => cases hp
  | refuse now r full => exact .inl (Point.other.inj hp).symm
  | store r => cases hp
  | tell r place => exact .inl (Point.other.inj hp).symm
  | @other move before after core hsend acts =>
      obtain rfl := Point.other.inj hp
      exact point_of_other (Uplink.effect_of_act acts) hsend (hother before rfl)

private theorem filterMap_of_alone {α β : Type} (f : α → Option β) {xs : List α}
    (hlength : xs.length = 1) {i : Nat} {x : α} (h : xs[i]? = some x) (y : α) :
    xs.filterMap f = (f x).toList ∧ (xs.set i y).filterMap f = (f y).toList := by
  obtain ⟨z, rfl⟩ := List.length_eq_one_iff.mp hlength
  cases i with
  | zero =>
      obtain rfl : z = x := by simpa using h
      cases hz : f z <;> cases hy : f y <;> simp [hz, hy]
  | succ i => simp at h

theorem Filed.of_effect {s : Threads Shared Point} (h : Filed s) {i : Nat} {point point' : Point}
    (hpoint : s.points[i]? = some point) {shared' : Shared}
    (heffect : Effect s.shared point point' shared')
    (haccounted : Accounted (core ⟨shared', s.points.set i point'⟩)) :
    Filed ⟨shared', s.points.set i point'⟩ := by
  have hother : ∀ p, point = .other p → p = .idle ∨ p.promised?.isSome := by
    rintro p rfl
    exact h.others p (List.mem_of_getElem? hpoint)
  have hothers : ∀ p, .other p ∈ s.points.set i point' → p = .idle ∨ p.promised?.isSome := by
    intro p hmem
    rcases List.mem_or_eq_of_mem_set hmem with hold | hnew
    · exact h.others p hold
    · exact heffect.others hother p hnew.symm
  have hset := filterMap_set_perm Point.untold? hpoint point'
  have halone := fun hlength => filterMap_of_alone Point.untold? hlength hpoint point'
  have hlength : (s.points.set i point').length = s.points.length := List.length_set
  rcases heffect.filing_cases hother with ⟨r, hnone, hsome, horder, hstored, haccepted⟩ |
    ⟨r, hsome, hnone, horder, hstored, haccepted⟩ | ⟨hbefore, hafter, horder, hstored, haccepted⟩
  · simp only [hnone, hsome, Option.toList_none, Option.toList_some, List.nil_append,
      List.singleton_append] at hset halone
    refine ⟨haccounted, ?_, hothers, ?_, ?_⟩
    · simp only [horder, hstored, h.order_eq, List.map_append, List.map_singleton]
    · simp only [haccepted, hstored]
      have hlast := (List.perm_append_singleton r s.shared.stored).symm
      exact (hset.append_right s.shared.accepted).trans ((h.told.cons r).trans hlast)
    · intro hone
      obtain ⟨hfirst, hnow⟩ := halone (hlength.symm.trans hone)
      have hold := h.alone (hlength.symm.trans hone)
      rw [hfirst, List.append_nil] at hold
      simp only [haccepted, hstored, hnow, hold]
  · simp only [hnone, hsome, Option.toList_none, Option.toList_some, List.nil_append,
      List.singleton_append] at hset halone
    refine ⟨haccounted, ?_, hothers, ?_, ?_⟩
    · simp only [horder, hstored, h.order_eq]
    · simp only [haccepted, hstored]
      rw [← List.append_assoc]
      have hfirst := List.perm_append_singleton r
        ((s.points.set i point').filterMap Point.untold? ++ s.shared.accepted)
      exact hfirst.trans ((hset.append_right s.shared.accepted).trans h.told)
    · intro hone
      obtain ⟨hfirst, hnow⟩ := halone (hlength.symm.trans hone)
      have hold := h.alone (hlength.symm.trans hone)
      rw [hfirst] at hold
      simp only [haccepted, hstored, hnow, hold, List.append_nil]
  · simp only [hbefore, hafter, Option.toList_none, List.nil_append] at hset halone
    refine ⟨haccounted, ?_, hothers, ?_, ?_⟩
    · simp only [horder, hstored, h.order_eq]
    · simp only [haccepted, hstored]
      exact (hset.append_right s.shared.accepted).trans h.told
    · intro hone
      obtain ⟨hfirst, hnow⟩ := halone (hlength.symm.trans hone)
      have hold := h.alone (hlength.symm.trans hone)
      rw [hfirst] at hold
      simp only [haccepted, hstored, hnow, hold]

theorem Filed.take {s : Threads Shared Point} (h : Filed s) (turn : Turn) :
    Filed (turn.take s) := by
  have haccounted := h.accounted.taken (taken_core turn s)
  cases turn with
  | caller i move =>
      change Accounted (core (s.step act i move)) at haccounted
      change Filed (s.step act i move)
      rcases Threads.step_cases act i move s with hrest | hmove
      · rw [hrest]
        exact h
      · obtain ⟨point, point', shared', hpoint, hact, hstep⟩ := hmove
        rw [hstep] at haccounted ⊢
        exact h.of_effect hpoint (effect_of_act hact) haccounted
  | relay => exact ⟨haccounted, h.order_eq, h.others, h.told, h.alone⟩
  | network o => exact ⟨haccounted, h.order_eq, h.others, h.told, h.alone⟩

def reached (settings : Settings) (now threads : Nat) (turns : List Turn) : Threads Shared Point :=
  runTurns turns (.start (.new settings now) (.other .idle) threads)

theorem filed_start (settings : Settings) (now threads : Nat) :
    Filed (.start (.new settings now) (.other .idle) threads) := by
  have hpoints : (Threads.start (Shared.new settings now) (Point.other .idle) threads).points =
      List.replicate threads (Point.other .idle) := rfl
  have hcore : core (.start (.new settings now) (Point.other .idle) threads) =
      .start (.new settings now) .idle threads := by
    simp [core, Threads.start, Shared.new, Point.core]
  have huntold : (List.replicate threads (Point.other .idle)).filterMap Point.untold? = [] := by
    simp [Point.untold?]
  refine ⟨?_, rfl, ?_, ?_, ?_⟩
  · rw [hcore]
    exact accounted_start settings now threads
  · intro point hmem
    exact .inl (Point.other.inj (List.eq_of_mem_replicate hmem))
  · rw [hpoints, huntold]
    exact .nil
  · intro _
    rw [hpoints, huntold]
    rfl

theorem filed_run (settings : Settings) (now threads : Nat) (turns : List Turn) :
    Filed (reached settings now threads turns) :=
  runTurns_induction (fun _ turn h => h.take turn) turns (filed_start settings now threads)

@[simp] theorem length_points_take (turn : Turn) (s : Threads Shared Point) :
    (turn.take s).points.length = s.points.length := by
  cases turn with
  | caller i move => exact Threads.length_points_step act i move s
  | relay => rfl
  | network o => rfl

theorem length_points_run (settings : Settings) (now threads : Nat) (turns : List Turn) :
    (reached settings now threads turns).points.length = threads :=
  runTurns_induction (P := fun s => s.points.length = threads)
    (fun s turn h => (length_points_take turn s).trans h) turns (List.length_replicate ..)

/-- What a server that has not lost the connection has received is a part of the frames of all
messages, and all of them once nothing waits. -/
theorem written_of_past {s : Threads Uplink.Shared Uplink.Point} (h : Accounted s)
    (hpast : s.shared.uplink.shipper.past = []) :
    s.shared.uplink.shipper.links.flatMap Link.written <+: s.shared.order.flatMap frame ∧
      (texts s.shared.uplink.shipper.backlog = [] → s.shared.uplink.shipper.buffer = .empty →
        s.shared.uplink.shipper.links.flatMap Link.written = s.shared.order.flatMap frame) := by
  have hlinks : s.shared.uplink.shipper.account.links =
      s.shared.uplink.shipper.account.live.toList := by
    rw [Account.links, Shipper.account, hpast]
    rfl
  have hlive := h.settled.flatMap_live
  have horder : s.shared.order.flatMap frame =
      s.shared.uplink.shipper.links.flatMap Link.written ++
        (s.shared.uplink.shipper.buffer.bytes ++
          (texts s.shared.uplink.shipper.backlog).flatMap frame) := by
    rw [h.order_eq, Account.stored, Account.shipped, hlinks, List.flatMap_append, hlive,
      List.append_assoc]
    have hsame : s.shared.uplink.shipper.links = s.shared.uplink.shipper.account.live.toList :=
      hlinks
    rw [hsame]
    rfl
  rw [horder]
  refine ⟨List.prefix_append _ _, ?_⟩
  intro htexts hbuffer
  rw [htexts, hbuffer]
  simp [FrameBuffer.empty]

/-- While the first connection holds, what the server has received splits into the documents of the
first records taken and a part of the next one, and into the documents of all records once nothing
waits. A record has been taken if its thread was told so, or will be as soon as it goes on. -/
theorem frames_exact (settings : Settings) (now threads : Nat) (turns : List Turn) :
    let s := reached settings now threads turns
    let shipper := s.shared.core.uplink.shipper
    let documents := s.shared.stored.map fun r => Text.utf8 (Gelf.encode r)
    (s.points.filterMap Point.untold? ++ s.shared.accepted).Perm s.shared.stored ∧
      (threads = 1 → s.shared.accepted ++ s.points.filterMap Point.untold? = s.shared.stored) ∧
      (shipper.past = [] → ∃ m rest,
        (shipper.links.flatMap Link.written).splitOn delimiter = documents.take m ++ [rest] ∧
          m ≤ documents.length ∧ rest <+: documents[m]?.getD [] ∧
          (texts shipper.backlog = [] → shipper.buffer = .empty →
            m = documents.length ∧ rest = [])) := by
  intro s shipper documents
  have hfiled : Filed s := filed_run settings now threads turns
  refine ⟨hfiled.told, ?_, ?_⟩
  · rintro rfl
    exact hfiled.alone (length_points_run settings now 1 turns)
  · intro hpast
    obtain ⟨hbegins, hwhole⟩ := written_of_past hfiled.accounted hpast
    have hstream : (core s).shared.order.flatMap frame = stream documents := by
      have horder : (core s).shared.order = s.shared.stored.map Gelf.encode := hfiled.order_eq
      rw [flatMap_frame, horder, List.map_map]
      rfl
    rw [hstream] at hbegins hwhole
    have hclean : ∀ text ∈ documents, delimiter ∉ text := by
      intro text hmem
      obtain ⟨r, -, rfl⟩ := List.mem_map.mp hmem
      exact Gelf.delimiter_notMem_encode r
    obtain ⟨m, rest, hsplit, hm, hpart, hall⟩ := splitOn_of_prefix hclean hbegins
    exact ⟨m, rest, hsplit, hm, hpart, fun htexts hbuffer => hall (hwhole htexts hbuffer)⟩

/-- Two threads hand in a record each, the first with zero characters, and between them stands a
barrier. The connection takes three bytes, is interrupted, and then takes the rest of the first
frame and the start of the second. -/
theorem frames_exact_interrupted :
    let record (message key : String) : Record :=
      { severity := .error, message
        origin := { host := "db", processId := 1, processName := "p" }, thread := "t"
        time := { seconds := 0, nanos := 0 }, fields := [(key, .text "\x00")] }
    let first := record "a\x00b" "\x00"
    let second := record "c" "k"
    let sent := frame (Gelf.encode first)
    let begun := (Text.utf8 (Gelf.encode second)).take 3
    let add (i : Nat) (r : Record) : List Turn :=
      .caller i (.add 1 r) :: List.replicate 2 (.caller i .resume)
    let turns : List Turn :=
      add 0 first ++ .caller 0 (.flush 2) :: List.replicate 4 (.caller 0 .resume) ++
        [.relay, .relay] ++ add 1 second ++
        [.network { tick := .start, found := some (.ok [⟨.v4 #v[127, 0, 0, 1], 12201⟩]) },
          .network { tick := .start, reachable := fun _ => true },
          .network { tick := .start, write := fun _ => .took 3 },
          .network { tick := .start, write := fun _ => .failed .interrupted },
          .network { tick := .start, write := fun _ => .took sent.length }]
    let s := reached (.forServer "logs" 12201) 0 2 turns
    let shipper := s.shared.core.uplink.shipper
    let received := shipper.links.flatMap Link.written
    s.shared.stored = [first, second] ∧ shipper.past = [] ∧ received = sent ++ begun ∧
      received.splitOn delimiter = [Text.utf8 (Gelf.encode first), begun] := by
  intro record first second sent begun add turns s shipper received
  obtain ⟨hstored, hpast, hreceived⟩ : s.shared.stored = [first, second] ∧ shipper.past = [] ∧
      received = sent ++ begun := by
    decide +kernel
  obtain ⟨hcount, hlast⟩ : (received.splitOn delimiter).length = 2 ∧
      (received.splitOn delimiter).getLast? = some begun := by
    rw [hreceived]
    decide +kernel
  have hexact := frames_exact (.forServer "logs" 12201) 0 2 turns
  obtain ⟨m, rest, hsplit, -⟩ := hexact.2.2 hpast
  rw [hstored] at hsplit
  have hrest : rest = begun := by
    rw [hsplit, List.getLast?_concat] at hlast
    exact Option.some.inj hlast
  have hm : m = 1 := by
    rw [hsplit, List.length_append, List.length_take] at hcount
    change min m 2 + 1 = 2 at hcount
    omega
  refine ⟨hstored, hpast, hreceived, ?_⟩
  rw [hsplit, hm, hrest]
  rfl

end Uplink.Intake

end LogShipping
