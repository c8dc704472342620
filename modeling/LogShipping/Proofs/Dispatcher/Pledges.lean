import LogShipping.Proofs.Dispatcher.Coverage
import LogShipping.Proofs.Sink.Barrier
import LogShipping.Proofs.Uplink.Handing

namespace LogShipping

open Dispatcher (Pledge Evolved Offered)

namespace LineSink.Service

variable {μ : Type} {s s' : Service μ} {places : List Nat} {records : List Record}

/-- The sink has not been dropped, and `records` have been accepted at `places`. -/
structure Holds (places : List Nat) (records : List Record) (s : Service μ) : Prop where
  kept : s.Kept
  undropped : s.dropped = false
  places : List.Forall₂ (fun place r => ∃ layout, s.accepted[place]? = some (r, layout)) places
    records

/-- The ticket covers the records at the first `count` of the places. -/
structure Covers (places : List Nat) (ticket count : Nat) (s : Service μ) : Prop where
  known : count ≤ places.length
  guards : Guards (places.take count) ticket s

private theorem Holds.grown (h : Holds places records s) (hkept : s'.Kept)
    (hundropped : s'.dropped = false) (hgrown : Grown s s') : Holds places records s' where
  kept := hkept
  undropped := hundropped
  places := h.places.imp fun _ _ ⟨layout, haccepted⟩ =>
    ⟨layout, getElem?_of_begins hgrown.accepted haccepted⟩

private theorem Covers.grown {ticket count : Nat} (h : Covers places ticket count s)
    (hgrown : Grown s s') : Covers places ticket count s' :=
  ⟨h.known, h.guards.grown hgrown⟩

private theorem Covers.append {ticket count : Nat} (h : Covers places ticket count s)
    (more : List Nat) : Covers (places ++ more) ticket count s := by
  refine ⟨?_, ?_⟩
  · rw [List.length_append]
    exact Nat.le_add_right_of_le h.known
  · rw [List.take_append_of_le_length h.known]
    exact h.guards

private theorem grown_handIn (now : Nat) (r : Record) (s : Service μ) : Grown s
    (s.handIn now r).1 :=
  grown_call 0 now _ s

private theorem Holds.handIn (h : Holds places records s) (now : Nat) (r : Record) :
    Holds places records (s.handIn now r).1 :=
  h.grown (h.kept.call h.undropped 0 now _) h.undropped (grown_handIn now r s)

theorem Holds.taken {now place : Nat} {r : Record} (h : Holds places records s)
    (hplace : (s.handIn now r).2 = some (.ok place)) :
    Holds (places ++ [place]) (records ++ [r]) (s.handIn now r).1 := by
  obtain ⟨rfl, haccepted⟩ := accepted_handIn hplace
  have hheld := h.handIn now r
  refine ⟨hheld.kept, hheld.undropped, List.rel_append hheld.places (.cons ⟨s.sink.layout, ?_⟩ .nil)⟩
  rw [haccepted, List.getElem?_concat_length]

private theorem Holds.askFlush (h : Holds places records s) (now : Nat) (wait : Wait) :
    Holds places records (s.askFlush now wait).1 :=
  h.grown (h.kept.askFlush h.undropped now wait) h.undropped (grown_askFlush now wait s)

private theorem Holds.covers {now ticket : Nat} {wait : Wait} (h : Holds places records s)
    (hticket : (s.askFlush now wait).2 = some ticket) :
    Covers places ticket records.length (s.askFlush now wait).1 := by
  have hlength := h.places.length_eq
  refine ⟨Nat.le_of_eq hlength.symm, guards_askFlush h.kept hticket fun place hmem => ?_⟩
  obtain ⟨r, layout, haccepted⟩ := related_of_mem_left h.places (List.mem_of_mem_take hmem)
  exact (List.getElem?_eq_some_iff.mp haccepted).1

def Event.isShared : Event μ → Bool
  | .relayout _ => false
  | .drop => false
  | _ => true

theorem Holds.step [Device μ] (h : Holds places records s) (event : Event μ)
    (hshared : event.isShared = true) :
    Holds places records (s.step event) ∧
      ∀ ticket count, Covers places ticket count s → Covers places ticket count (s.step event) := by
  obtain ⟨hgrown, hundropped⟩ :
      Grown s (s.step event) ∧ (s.step event).dropped = false := by
    cases event with
    | call i now move =>
        simp only [Service.step, h.undropped, Bool.false_eq_true, if_false]
        exact ⟨grown_call i now move s, h.undropped⟩
    | work =>
        refine ⟨grown_work h.kept, ?_⟩
        simp only [Service.step, Service.work]
        split
        · exact h.undropped
        · exact h.undropped
    | device change => exact ⟨grown_onDevice change s, h.undropped⟩
    | relayout layout => cases hshared
    | drop => cases hshared
  exact ⟨h.grown (h.kept.step event) hundropped hgrown, fun _ _ hcovers => hcovers.grown hgrown⟩

end LineSink.Service

namespace Uplink

variable {s s' : Threads Shared Point} {places : List Nat} {records : List Record}

/-- The messages of `records` are known to have been accepted, at `places`. -/
structure Holds (places : List Nat) (records : List Record) (s : Threads Shared Point) : Prop where
  regular : Regular s
  accepted : places ⊆ s.shared.accepted
  places : List.Forall₂ (fun place r => s.shared.order[place]? = some (Gelf.encode r)) places
    records

/-- The ticket covers the messages at the first `count` of the places. -/
structure Covers (places : List Nat) (ticket count : Nat) (s : Threads Shared Point) : Prop where
  known : count ≤ places.length
  promises : Promises (places.take count) ticket s

private theorem Holds.grown (h : Holds places records s) (hregular : Regular s')
    (hgrown : Grown s s') : Holds places records s' where
  regular := hregular
  accepted := List.Subset.trans h.accepted hgrown.accepted.subset
  places := h.places.imp fun _ _ horder => getElem?_of_begins hgrown.order horder

theorem Holds.take (h : Holds places records s) (turn : Turn) :
    Holds places records (turn.take s) :=
  h.grown (h.regular.take turn) (grown_take turn s)

theorem Covers.take {ticket count : Nat} (hcovers : Covers places ticket count s)
    (h : Holds places records s) (turn : Turn) : Covers places ticket count (turn.take s) :=
  ⟨hcovers.known, hcovers.promises.take
    (List.Subset.trans (List.take_subset _ _) h.accepted) turn⟩

private theorem Covers.append {ticket count : Nat} (h : Covers places ticket count s)
    (more : List Nat) : Covers (places ++ more) ticket count s := by
  refine ⟨?_, ?_⟩
  · rw [List.length_append]
    exact Nat.le_add_right_of_le h.known
  · rw [List.take_append_of_le_length h.known]
    exact h.promises

private theorem grown_handIn (now : Nat) (message : String) (s : Threads Shared Point) :
    Grown s (handIn s now message).1 := by
  rcases handIn_eq_take now message s with hsame | ⟨move, htake⟩
  · rw [hsame]
    exact ⟨List.prefix_rfl, List.prefix_rfl⟩
  · rw [htake]
    exact grown_take _ s

private theorem Holds.handIn (h : Holds places records s) (now : Nat) (message : String) :
    Holds places records (handIn s now message).1 := by
  rcases handIn_eq_take now message s with hsame | ⟨move, htake⟩
  · rwa [hsame]
  · rw [htake]
    exact h.take _

private theorem Covers.handIn {ticket count : Nat} (hcovers : Covers places ticket count s)
    (h : Holds places records s) (now : Nat) (message : String) :
    Covers places ticket count (handIn s now message).1 := by
  rcases handIn_eq_take now message s with hsame | ⟨move, htake⟩
  · rwa [hsame]
  · rw [htake]
    exact hcovers.take h _

theorem Holds.taken {now place : Nat} {r : Record} (h : Holds places records s)
    (hplace : (Uplink.handIn s now (Gelf.encode r)).2 = some (.ok place)) :
    Holds (places ++ [place]) (records ++ [r]) (Uplink.handIn s now (Gelf.encode r)).1 := by
  obtain ⟨horder, haccepted⟩ := accepted_handIn hplace
  have hheld := h.handIn now (Gelf.encode r)
  refine ⟨hheld.regular, List.append_subset.mpr ⟨hheld.accepted, by simpa using haccepted⟩,
    List.rel_append hheld.places (.cons ?_ .nil)⟩
  exact getElem?_of_begins (grown_handIn now (Gelf.encode r) s).order horder

private theorem Holds.joinFlush (h : Holds places records s) (now : Nat) :
    Holds places records (Uplink.joinFlush s now).1 :=
  ⟨h.regular.joinFlush now, h.accepted, h.places⟩

private theorem Covers.joinFlush {ticket count : Nat} (hcovers : Covers places ticket count s)
    (h : Holds places records s) (now : Nat) :
    Covers places ticket count (Uplink.joinFlush s now).1 :=
  ⟨hcovers.known, hcovers.promises.joinFlush
    (List.Subset.trans (List.take_subset _ _) h.accepted) now⟩

private theorem Holds.covers (h : Holds places records s) (now : Nat) :
    Covers places (Uplink.joinFlush s now).2 records.length (Uplink.joinFlush s now).1 :=
  ⟨Nat.le_of_eq h.places.length_eq.symm,
    promises_joinFlush (List.Subset.trans (List.take_subset _ _) h.accepted) now⟩

end Uplink

namespace Station

variable {μ K ω : Type}

/-- The records that the station has taken from the dispatcher are where it says they are. -/
def Holds (records : List Record) : Station μ K → Prop
  | stream s places => s.Holds places records
  | file s places => s.Holds places records
  | uplink s places => Uplink.Holds places records s
  | other _ => True

/-- The ticket covers the first `count` records that the station has taken. -/
def Covers (ticket count : Nat) : Station μ K → Prop
  | stream s places => s.Covers places ticket count
  | file s places => s.Covers places ticket count
  | uplink s places => Uplink.Covers places ticket count s
  | other _ => True

def Follows (station : Station μ K) (records : List Record) (station' : Station μ K) : Prop :=
  station'.Holds records ∧
    ∀ ticket count, station.Covers ticket count → station'.Covers ticket count

private theorem follows_self {station : Station μ K} {records : List Record}
    (h : station.Holds records) : station.Follows records station :=
  ⟨h, fun _ _ hcovers => hcovers⟩

private theorem follows_other {target target' : K} {records : List Record} :
    (other target : Station μ K).Follows records (other target') :=
  ⟨trivial, fun _ _ _ => trivial⟩

variable [Target K]

private theorem follows_reply {make : List Nat → Station μ K} {places : List Nat}
    {result : Option (Except Refusal Nat)} {now : Nat} {r : Record} {w w' : Watched (Station μ K)}
    (hoffer : w.target.offer now r = reply make places result) (hoffered : Offered now r w w')
    (hrest : w.target.Follows (Dispatcher.taken w.offers) (make places))
    (htaken : ∀ place, result = some (.ok place) →
      w.target.Follows (Dispatcher.taken w.offers ++ [r]) (make (places ++ [place]))) :
    w.target.Follows (Dispatcher.taken w'.offers) w'.target := by
  have hreply {answer : Offer (Station μ K)} (h : Target.offer now r w.target = answer) :
      reply make places result = answer := hoffer.symm.trans h
  cases hoffered with
  | answered target result' h =>
      have hanswer := hreply h
      rcases result with _ | refusal | place
      · cases hanswer
      · obtain ⟨rfl, rfl⟩ := Offer.answered.inj hanswer
        simpa [Dispatcher.taken] using hrest
      · obtain ⟨rfl, rfl⟩ := Offer.answered.inj hanswer
        simpa [Dispatcher.taken] using htaken place rfl
  | begun target h =>
      have hanswer := hreply h
      rcases result with _ | refusal | place
      · obtain rfl := Offer.begun.inj hanswer
        exact hrest
      · cases hanswer
      · cases hanswer

private theorem follows_offered {now : Nat} {r : Record} {w w' : Watched (Station μ K)}
    (h : w.target.Holds (Dispatcher.taken w.offers)) (hoffered : Offered now r w w') :
    w.target.Follows (Dispatcher.taken w'.offers) w'.target := by
  obtain ⟨station, offers⟩ := w
  cases station with
  | stream s places | file s places =>
      have hheld : s.Holds places (Dispatcher.taken offers) := h
      have hgrown := LineSink.Service.grown_handIn now r s
      exact follows_reply rfl hoffered ⟨hheld.handIn now r, fun _ _ hcovers => hcovers.grown hgrown⟩
        fun place hplace => ⟨hheld.taken hplace, fun _ _ hcovers => (hcovers.grown hgrown).append _⟩
  | uplink s places =>
      have hheld : Uplink.Holds places (Dispatcher.taken offers) s := h
      exact follows_reply rfl hoffered
        ⟨hheld.handIn now _, fun _ _ hcovers => hcovers.handIn hheld now _⟩
        fun place hplace => ⟨hheld.taken hplace, fun _ _ hcovers =>
          Uplink.Covers.append (hcovers.handIn hheld now _) _⟩
  | other target =>
      cases hoffered with
      | answered next result h' =>
          have hoffer : offer now r (other target) = .answered next result := h'
          simp only [offer] at hoffer
          split at hoffer <;> cases hoffer
          exact follows_other
      | begun next h' =>
          have hoffer : offer now r (other target) = .begun next := h'
          simp only [offer] at hoffer
          split at hoffer <;> cases hoffer
          exact follows_other

private theorem follows_asked (now : Nat) {station : Station μ K} {records : List Record}
    (h : station.Holds records) : station.Follows records (station.askFlush now).1 := by
  cases station with
  | stream s places | file s places =>
      have hheld : s.Holds places records := h
      exact ⟨hheld.askFlush now wait, fun _ _ hcovers =>
        hcovers.grown (LineSink.Service.grown_askFlush now wait s)⟩
  | uplink s places =>
      have hheld : Uplink.Holds places records s := h
      exact ⟨hheld.joinFlush now, fun _ _ hcovers => hcovers.joinFlush hheld now⟩
  | other target => exact follows_other

omit [Target K] in
private theorem follows_perform [Device μ] (own : ω → K → K) (deed : Deed μ ω)
    {station : Station μ K} {records : List Record} (h : station.Holds records) :
    station.Follows records (perform own deed station) := by
  cases station with
  | other target => cases deed <;> exact follows_other
  | uplink s places =>
      have hheld : Uplink.Holds places records s := h
      cases deed with
      | turn turn => exact ⟨hheld.take _, fun _ _ hcovers => hcovers.take hheld _⟩
      | _ => exact follows_self h
  | stream s places =>
      have hheld : s.Holds places records := h
      cases deed with
      | call i now move => exact hheld.step (.call (i + 1) now move) rfl
      | work => exact hheld.step .work rfl
      | device change => exact hheld.step (.device change) rfl
      | _ => exact follows_self h
  | file s places =>
      have hheld : s.Holds places records := h
      cases deed with
      | call i now move => exact hheld.step (.call (i + 1) now move) rfl
      | work => exact hheld.step .work rfl
      | disk change => exact hheld.step (.device change) rfl
      | _ => exact follows_self h

private theorem follows_evolved [Device μ] (own : ω → K → K) {w w' : Watched (Station μ K)}
    (hevolved : Evolved (perform own) w w') (h : w.target.Holds (Dispatcher.taken w.offers)) :
    w.target.Follows (Dispatcher.taken w'.offers) w'.target := by
  cases hevolved with
  | same => exact follows_self h
  | offered now r reply => exact follows_offered h reply
  | asked now => exact follows_asked now h
  | alone deed => exact follows_perform own deed h

private theorem covers_asked {station : Station μ K} {records : List Record} {now ticket : Nat}
    (h : station.Holds records) (hticket : (station.askFlush now).2 = some ticket) :
    (station.askFlush now).1.Covers ticket records.length := by
  cases station with
  | stream s places | file s places =>
      have hheld : s.Holds places records := h
      have hsome : (s.askFlush now wait).2 = some ticket := hticket
      exact hheld.covers hsome
  | uplink s places =>
      have hheld : Uplink.Holds places records s := h
      obtain rfl : s.points.length = ticket := Option.some.inj hticket
      exact hheld.covers now
  | other target => trivial

theorem pledge [Device μ] (own : ω → K → K) :
    Pledge (perform (μ := μ) own) (fun w => w.target.Holds (Dispatcher.taken w.offers))
      fun station ticket count => station.Covers ticket count where
  keeps hevolved h := (follows_evolved own hevolved h).1
  stays hevolved h hcovers := (follows_evolved own hevolved h).2 _ _ hcovers
  begins h hticket := covers_asked h hticket

end Station

end LogShipping
