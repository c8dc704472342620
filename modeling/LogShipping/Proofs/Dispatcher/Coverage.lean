import LogShipping.Proofs.Dispatcher.FlushCall
import LogShipping.Proofs.Lists
import Mathlib.Data.List.Infix

namespace LogShipping.Dispatcher

variable {H ω : Type} [Target H]

theorem getElem?_taken {offers : List (Record × Except Refusal Unit)} {m : Nat} {r : Record}
    (h : offers[m]? = some (r, .ok ())) :
    (taken offers)[(taken (offers.take m)).length]? = some r := by
  obtain ⟨hm, hr⟩ := List.getElem?_eq_some_iff.mp h
  have hsplit : offers = offers.take m ++ (r, .ok ()) :: offers.drop (m + 1) := by
    rw [← hr, List.getElem_cons_drop, List.take_append_drop]
  have htaken : taken offers = taken (offers.take m) ++ r :: taken (offers.drop (m + 1)) := by
    calc taken offers = taken (offers.take m ++ (r, .ok ()) :: offers.drop (m + 1)) :=
          congrArg taken hsplit
      _ = _ := by simp [taken]
  rw [htaken, List.getElem?_append_right (Nat.le_refl _), Nat.sub_self]
  rfl

private theorem length_taken_take_lt {offers : List (Record × Except Refusal Unit)} {m : Nat}
    {r : Record} (h : offers[m]? = some (r, .ok ())) :
    (taken (offers.take m)).length < (taken offers).length :=
  (List.getElem?_eq_some_iff.mp (getElem?_taken h)).1

namespace Chronicle

variable {own : ω → H → H} {I : Watched H → Prop} {G : H → Nat → Nat → Prop} {origin : Origin}
  {c : Chronicle H} {place k m : Nat} {sent : Record × List Nat}

section Offers

omit [Target H]

private theorem take_succ_offers (hsent : c.dispatched[k]? = some sent) :
    (c.dispatched.take (k + 1)).flatMap (copies place) =
      (c.dispatched.take k).flatMap (copies place) ++ copies place sent := by
  rw [List.take_add_one, hsent, List.flatMap_append]
  simp

theorem offersTo_zero (c : Chronicle H) : c.offersTo place 0 = 0 := by
  simp [offersTo]

private theorem offersTo_succ (hsent : c.dispatched[k]? = some sent) :
    c.offersTo place (k + 1) = c.offersTo place k + sent.2.count place := by
  rw [offersTo, take_succ_offers hsent, List.length_append, copies, List.length_replicate]
  rfl

private theorem offers_of_sent (hsent : c.dispatched[k]? = some sent) (hm : c.offersTo place k ≤ m)
    (hm' : m < c.offersTo place (k + 1)) :
    ((c.dispatched.take (k + 1)).flatMap (copies place))[m]? = some sent.1 := by
  rw [offersTo_succ hsent] at hm'
  rw [take_succ_offers hsent, List.getElem?_append_right hm, copies, List.getElem?_replicate_of_lt]
  unfold offersTo at hm hm'
  omega

private theorem sent_of_admitted (hkept : c.Kept origin) {entry : Draft × Fields}
    (hentry : c.admitted[k]? = some entry) (hk : k < c.dispatched.length) :
    ∃ places, c.dispatched[k]? = some (completed origin entry, places) := by
  have horder := congrArg (fun records => records[k]?) hkept.order
  have hsent := List.getElem?_eq_getElem hk
  simp only [List.getElem?_map, hentry, Option.map_some] at horder
  rw [List.getElem?_append_left (by simpa using hk), List.getElem?_map, hsent, Option.map_some,
    Option.some.injEq] at horder
  exact ⟨c.dispatched[k].2, by rw [hsent, ← horder]⟩

private theorem offered_of_covers {promised ticket : Nat} {w : Watched H}
    (h : Covers G c promised place ticket w) (hk : k < promised)
    (hsent : c.dispatched[k]? = some sent) (hm : c.offersTo place k ≤ m)
    (hm' : m < c.offersTo place (k + 1)) :
    ∃ result count, w.offers[m]? = some (sent.1, result) ∧ G w.target ticket count ∧
      (result = .ok () → (taken (w.offers.take m)).length < count) := by
  obtain ⟨offers, hoffers, hcopies, hticket⟩ := h
  have hwithin : (c.dispatched.take (k + 1)).flatMap (copies place) <+: offers.map Prod.fst :=
    (List.IsPrefix.flatMap (List.take_prefix_take_left hk) _).trans hcopies
  have hrecord := getElem?_of_begins hwithin (offers_of_sent hsent hm hm')
  rw [List.getElem?_map] at hrecord
  obtain ⟨⟨r, result⟩, hoffer, rfl⟩ := Option.map_eq_some_iff.mp hrecord
  refine ⟨result, (taken offers).length, getElem?_of_begins hoffers hoffer, hticket, ?_⟩
  rintro rfl
  obtain ⟨more, hmore⟩ := hoffers
  rw [← hmore, List.take_append_of_le_length (Nat.le_of_lt (List.getElem?_eq_some_iff.mp hoffer).1)]
  exact length_taken_take_lt hoffer

end Offers

theorem admitted_run (own : ω → H → H) (turns : List (Turn ω)) (c : Chronicle H) :
    c.admitted <+: (c.run own turns).admitted :=
  run_induction (P := fun d => c.admitted <+: d.admitted)
    (fun _ _ h => h.trans (List.prefix_append _ _)) turns List.prefix_rfl

/-- All targets that were asked have answered true when the outcome of a flush is true. -/
theorem hasFlushed_of_outcome {d : Dispatcher (Watched H)} {asked : List (Nat × Option Nat)}
    (h : d.outcome? asked = some true) {ticket : Option Nat} (hmem : (place, ticket) ∈ asked) :
    d.hasFlushed place ticket = true := by
  simp only [outcome?] at h
  split at h
  · exact List.all_eq_true.mp (Option.some.inj h) (place, ticket) hmem
  · cases h

private theorem answer_of_hasFlushed {d : Dispatcher (Watched H)} {ticket : Option Nat}
    (h : d.hasFlushed place ticket = true) {w : Watched H} (hw : d.targets[place]? = some w) :
    ∃ known, ticket = some known ∧ Target.answer? known w.target = some true := by
  unfold hasFlushed at h
  cases ticket with
  | none => simp at h
  | some known =>
      have hanswer : Target.answer? known w = some true := by simpa [hw] using h
      exact ⟨known, rfl, hanswer⟩

section Returned

variable {later during : List (Turn ω)} {i time : Nat} {tick : Tick} {timeout : Span} {move : Move}
  {promised : Nat}

private theorem underway_during (hkept : c.Kept origin)
    (hidle : (c.run own later).threads.points[i]? = some .idle)
    (hbusy : ∀ part, part <+: during →
      (c.run own (later ++ .caller i (.flush time tick timeout) :: part)).threads.points[i]? ≠
        some .idle) :
    Underway own i (c.run own later).dispatcher.tickets
      (c.run own later).threads.shared.taken.length
      ((c.run own later).step own (.caller i (.flush time tick timeout))) during := by
  simp only [run_append_cons] at hbusy
  exact underway_of_run ((kept_run hkept own later).step own _)
    (underway_of_flush hidle (hbusy [] List.nil_prefix)) during hbusy

theorem asked_of_returns (hkept : c.Kept origin)
    (hidle : (c.run own later).threads.points[i]? = some .idle)
    (hbusy : ∀ part, part <+: during →
      (c.run own (later ++ .caller i (.flush time tick timeout) :: part)).threads.points[i]? ≠
        some .idle)
    (hreturns : (c.run own (later ++ .caller i (.flush time tick timeout) :: during)).Returns own i
      move ⟨promised, true⟩) :
    promised = (c.run own later).admitted.length ∧ ∃ upTo asked, upTo <+: during ∧
      (c.run own (later ++ .caller i (.flush time tick timeout) :: upTo)).dispatcher.isReached
        (c.run own later).dispatcher.tickets = true ∧
      (asked.map Prod.fst).Perm (c.run own
        (later ++ .caller i (.flush time tick timeout) :: upTo)).dispatcher.registered ∧
      (c.run own (later ++ .caller i (.flush time tick timeout) :: during)).threads.points[i]? =
        some (.flushing [] asked promised) ∧
      ∀ place ticket, (place, ticket) ∈ asked →
        (c.run own (later ++ .caller i (.flush time tick timeout) :: during)).dispatcher.hasFlushed
          place ticket = true := by
  have hfirst := kept_run hkept own later
  have hunderway := underway_during hkept hidle hbusy
  simp only [run_append_cons] at hreturns ⊢
  generalize c.run own later = first at *
  cases hunderway with
  | draining here =>
      rcases returns_cases here (by simp) hreturns with ⟨asked, hpoint, -⟩ | hfalse
      · cases hpoint
      · cases hfalse
  | flushing upTo rest asked within reached all here =>
      rcases returns_cases here (by simp) hreturns with ⟨asked', hpoint, hover⟩ | hfalse
      · cases hpoint
        refine ⟨congrArg List.length hfirst.taken, upTo, asked, within, reached, all, here, ?_⟩
        exact fun place ticket hmem => hasFlushed_of_outcome hover hmem
      · cases hfalse

/-- When a flush returns true, every record handed in before it, and sent to a target that has been
registered all the time, has been offered to that target, and if the target took it then it is among
the records covered by a ticket that has been answered. -/
theorem offers_of_returns (hpledge : Pledge own I G) (h : c.Sound origin I G)
    {entry : Draft × Fields} (hentry : c.admitted[k]? = some entry)
    (hunsent : c.dispatched.length ≤ k)
    (hidle : (c.run own later).threads.points[i]? = some .idle)
    (hbusy : ∀ part, part <+: during →
      (c.run own (later ++ .caller i (.flush time tick timeout) :: part)).threads.points[i]? ≠
        some .idle)
    (hreturns : (c.run own (later ++ .caller i (.flush time tick timeout) :: during)).Returns own i
      move ⟨promised, true⟩)
    (hplace : ∀ part, part <+: later ++ .caller i (.flush time tick timeout) :: during →
      place ∈ (c.run own part).dispatcher.registered) {w : Watched H}
    (hw : (c.run own
      (later ++ .caller i (.flush time tick timeout) :: during)).dispatcher.targets[place]? =
        some w) :
    let last := c.run own (later ++ .caller i (.flush time tick timeout) :: during)
    last.offersTo place k < last.offersTo place (k + 1) ∧
      ∀ m, last.offersTo place k ≤ m → m < last.offersTo place (k + 1) →
        ∃ result, w.offers[m]? = some (completed origin entry, result) ∧
          (result = .ok () → ∃ ticket count, G w.target ticket count ∧
            (taken (w.offers.take m)).length < count ∧
            Target.answer? ticket w.target = some true) := by
  intro last
  have hlast : last.Sound origin I G := h.run hpledge _
  obtain ⟨hpromised, upTo, asked, within, -, all, hpoint, hflushed⟩ :=
    asked_of_returns h.kept hidle hbusy hreturns
  obtain ⟨hdelivered, hcovers⟩ : Assured G last (.flushing [] asked promised) :=
    hlast.points _ (List.mem_of_getElem? hpoint)
  have hk : k < promised := by
    have hfirst := getElem?_of_begins (admitted_run own later c) hentry
    rw [hpromised]
    exact (List.getElem?_eq_some_iff.mp hfirst).1
  obtain ⟨places, hsent⟩ := sent_of_admitted hlast.kept
    (getElem?_of_begins (admitted_run own _ c) hentry) (Nat.lt_of_lt_of_le hk hdelivered.sent)
  -- It was sent out after its log call, and all that time the target was registered.
  have hsentTo : place ∈ places := placed_of_run _ hplace hsent hunsent
  obtain ⟨⟨_, ticket⟩, hmem, rfl⟩ : ∃ entry ∈ asked, entry.1 = place := by
    refine List.mem_map.mp (all.mem_iff.mpr (hplace _ ?_))
    exact (List.prefix_append_right_inj later).mpr ((List.prefix_cons_inj _).mpr within)
  obtain ⟨known, rfl, hanswer⟩ := answer_of_hasFlushed (hflushed _ ticket hmem) hw
  refine ⟨?_, fun m hm hm' => ?_⟩
  · rw [offersTo_succ hsent]
    exact Nat.lt_add_of_pos_right (List.count_pos_iff.mpr hsentTo)
  · obtain ⟨result, count, hoffer, hticket, hcount⟩ :=
      offered_of_covers (hcovers _ known w hmem hw) hk hsent hm hm'
    exact ⟨result, hoffer, fun hok => ⟨known, count, hticket, hcount hok, hanswer⟩⟩

theorem returns_giveUp_of_underway (hkept : c.Kept origin)
    (hidle : (c.run own later).threads.points[i]? = some .idle)
    (hbusy : ∀ part, part <+: during →
      (c.run own (later ++ .caller i (.flush time tick timeout) :: part)).threads.points[i]? ≠
        some .idle) :
    ∃ promised, (c.run own (later ++ .caller i (.flush time tick timeout) :: during)).Returns own i
      .giveUp ⟨promised, false⟩ := by
  rw [run_append_cons]
  cases underway_during hkept hidle hbusy with
  | draining here => exact returns_giveUp here (by simp)
  | flushing upTo rest asked within reached all here => exact returns_giveUp here (by simp)

end Returned

end Chronicle

end LogShipping.Dispatcher
