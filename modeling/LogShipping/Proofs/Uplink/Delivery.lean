import LogShipping.Proofs.Lists
import LogShipping.Proofs.Uplink.Turns

namespace LogShipping

namespace Uplink

open Network

namespace Account

/-- Each connection's bytes are the frames of the messages taken for it. -/
structure Settled (a : Account) : Prop where
  past : ∀ link ∈ a.past, link.written ++ link.discarded = link.taken.flatMap frame
  live : ∀ link, a.live = some link →
    link.written ++ a.buffer.bytes = link.taken.flatMap frame
  offline : a.live = none → a.buffer = .empty
  nonempty : ∀ message ∈ a.stored, message ≠ ""

private theorem Settled.entry {a b : Account} (h : Entry a b) (ha : Settled a) : Settled b := by
  have hnonempty : ∀ message ∈ b.stored, message ≠ "" := by
    rw [h.stored_eq]
    exact ha.nonempty
  cases h with
  | connect endpoint offline =>
      refine ⟨ha.past, ?_, by simp, hnonempty⟩
      intro link hlink
      have hbuffer := ha.offline offline
      simp only [Option.some.injEq] at hlink
      subst hlink
      simp [hbuffer, FrameBuffer.empty]
  | passBarrier online popped =>
      exact ⟨ha.past, ha.live, ha.offline, hnonempty⟩
  | @takeText link message queue online popped =>
      refine ⟨ha.past, ?_, by simp, hnonempty⟩
      intro link' hlink
      have hlive := ha.live link online
      have hmessage : message ≠ "" := by
        apply ha.nonempty
        simp [stored, texts_of_pop?_text popped]
      simp only [Option.some.injEq] at hlink
      subst hlink
      simp [hmessage, ← hlive]
  | @send link sent rest online parted =>
      refine ⟨ha.past, ?_, by simp, hnonempty⟩
      intro link' hlink
      have hlive := ha.live link online
      simp only [Option.some.injEq] at hlink
      subst hlink
      rw [List.append_assoc, parted, hlive]
  | @lose link online =>
      refine ⟨?_, by simp, by simp, hnonempty⟩
      intro link' hmem
      rcases List.mem_append.mp hmem with hpast | hlast
      · exact ha.past link' hpast
      · have hlive := ha.live link online
        rw [List.mem_singleton] at hlast
        subst hlast
        exact hlive

private theorem Settled.withQueue {a : Account} (ha : Settled a) (queue : Backlog Parcel)
    (hnonempty : ∀ message ∈ ({ a with queue } : Account).stored, message ≠ "") :
    Settled { a with queue } :=
  ⟨ha.past, ha.live, ha.offline, hnonempty⟩

end Account

structure Accounted (s : Threads Shared Point) : Prop where
  settled : s.shared.uplink.shipper.account.Settled
  order_eq : s.shared.order = s.shared.uplink.shipper.account.stored
  admitted : ∀ message, Point.admitted message ∈ s.points → message ≠ ""

theorem accounted_start (settings : Settings) (now threads : Nat) :
    Accounted (.start (.new settings now) .idle threads) := by
  refine ⟨⟨?_, ?_, ?_, ?_⟩, rfl, ?_⟩
  · simp [Threads.start, Shared.new, new, Shipper.new, Shipper.account]
  · intro link hlink
    cases hlink
  · intro _
    rfl
  · intro message hmem
    cases hmem
  · intro message hmem
    cases List.eq_of_mem_replicate hmem

/-- The accounts stay right when the queue is changed and its messages are not. -/
theorem Accounted.withQueue {s s' : Threads Shared Point} (h : Accounted s)
    (horder : s'.shared.order = s.shared.order) {queue : Backlog Parcel}
    (htexts : texts queue = texts s.shared.uplink.backlog)
    (haccount : s'.shared.uplink.shipper.account =
      { s.shared.uplink.shipper.account with queue })
    (hadmitted : ∀ message, Point.admitted message ∈ s'.points → message ≠ "") :
    Accounted s' := by
  have hstored : s'.shared.uplink.shipper.account.stored =
      s.shared.uplink.shipper.account.stored := by
    rw [haccount]
    exact congrArg (s.shared.uplink.shipper.account.shipped ++ ·) htexts
  have hnonempty := h.settled.nonempty
  rw [← hstored, haccount] at hnonempty
  refine ⟨?_, ?_, hadmitted⟩
  · rw [haccount]
    exact h.settled.withQueue queue hnonempty
  · rw [horder, hstored, h.order_eq]

private theorem Effect.admitted_nonempty {move : Move} {point point' : Point} {s s' : Shared}
    (h : Effect s move point point' s') {message : String} (hpoint : point' = .admitted message) :
    message ≠ "" := by
  cases h with
  | grant now other hmessage room =>
      cases hpoint
      exact hmessage
  | _ => cases hpoint

private theorem Accounted.store {s : Threads Shared Point} (h : Accounted s) {message : String}
    (hmessage : message ≠ "") {points : List Point}
    (hadmitted : ∀ message, Point.admitted message ∈ points → message ≠ "") :
    Accounted ⟨s.shared.store message, points⟩ := by
  have hstored := stored_store message s.shared
  have hnonempty : ∀ other ∈ (s.shared.store message).uplink.shipper.account.stored,
      other ≠ "" := by
    intro other hmem
    rw [hstored] at hmem
    rcases List.mem_append.mp hmem with hold | hnew
    · exact h.settled.nonempty other hold
    · rw [List.mem_singleton.mp hnew]
      exact hmessage
  refine ⟨?_, ?_, hadmitted⟩
  · exact h.settled.withQueue _ hnonempty
  · rw [hstored, ← h.order_eq]
    rfl

theorem Accounted.taken {s s' : Threads Shared Point} (h : Accounted s) (htaken : Taken s s') :
    Accounted s' := by
  cases htaken with
  | rest => exact h
  | @caller i move point point' shared' hpoint effect =>
      have hadmitted : ∀ message, Point.admitted message ∈ s.points.set i point' →
          message ≠ "" := by
        intro message hmem
        rcases List.mem_or_eq_of_mem_set hmem with hold | hnew
        · exact h.admitted message hold
        · exact effect.admitted_nonempty hnew.symm
      rcases effect.storage_cases with ⟨message, rfl, rfl⟩ | ⟨horder, queue, htexts, haccount⟩
      · exact h.store (h.admitted message (List.mem_of_getElem? hpoint)) hadmitted
      · exact h.withQueue horder htexts haccount hadmitted
  | relay relayed =>
      obtain ⟨queue, htexts, haccount⟩ := relayed.account_eq
      exact h.withQueue rfl htexts haccount h.admitted
  | network o =>
      have hentries := Shipper.entries_step s.shared.uplink.shipper o
      have hstored := hentries.keeps
        (P := fun a => a.stored = s.shared.uplink.shipper.account.stored)
        (fun a b entry ha => entry.stored_eq.trans ha) rfl
      refine ⟨?_, ?_, h.admitted⟩
      · exact hentries.keeps (fun a b entry ha => ha.entry entry) h.settled
      · exact h.order_eq.trans hstored.symm

theorem accounted_run (settings : Settings) (now threads : Nat) (turns : List Turn) :
    Accounted (reached settings now threads turns) :=
  runTurns_induction (fun s turn h => h.taken (taken_take turn s)) turns
    (accounted_start settings now threads)

/-- The place of the message that the thread has stored and not counted yet. -/
def Point.place? : Point → Option Nat
  | stored place => some place
  | _ => none

/-- Each message stored is its sender's to count, or has been counted, and no message is both or has
two senders. -/
def Placed (s : Threads Shared Point) : Prop :=
  (s.points.filterMap Point.place? ++ s.shared.accepted).Perm (List.range s.shared.order.length)

theorem Placed.of_effect {s : Threads Shared Point} (h : Placed s) {i : Nat} {move : Move}
    {point point' : Point} (hpoint : s.points[i]? = some point) {shared' : Shared}
    (heffect : Effect s.shared move point point' shared') :
    Placed ⟨shared', s.points.set i point'⟩ := by
  have hset := filterMap_set_perm Point.place? hpoint point'
  unfold Placed at h ⊢
  cases heffect with
  | store message =>
      -- The new place is the first behind the ones there are.
      have hlength : (s.shared.store message).order.length = s.shared.order.length + 1 :=
        List.length_append
      rw [hlength, List.range_succ]
      exact ((hset.append_right _).trans (h.cons _)).trans (List.perm_append_singleton ..).symm
  | countAccepted place =>
      exact ((append_snoc_perm ..).trans (hset.append_right s.shared.accepted)).trans h
  | _ => exact (hset.append_right _).trans h

theorem placed_start (settings : Settings) (now threads : Nat) :
    Placed (.start (.new settings now) .idle threads) := by
  simp [Placed, Threads.start, Shared.new, Point.place?]

theorem Placed.taken {s s' : Threads Shared Point} (h : Placed s) (htaken : Taken s s') :
    Placed s' := by
  cases htaken with
  | rest => exact h
  | caller hpoint effect => exact h.of_effect hpoint effect
  | relay relayed => exact h
  | network o => exact h

theorem placed_run (settings : Settings) (now threads : Nat) (turns : List Turn) :
    Placed (reached settings now threads turns) :=
  runTurns_induction (fun s turn h => h.taken (taken_take turn s)) turns
    (placed_start settings now threads)

/-- The message that the thread may store next. -/
def Point.text? : Point → Option String
  | admitted message => some message
  | _ => none

def Turn.sent? : Turn → Option String
  | caller _ (.send _ message) => some message
  | _ => none

/-- The messages that have room in the queue, stored or not yet. -/
def handed (s : Threads Shared Point) : List String :=
  s.points.filterMap Point.text? ++ s.shared.order

private theorem handed_of_effect {s : Threads Shared Point} {i : Nat} {move : Move}
    {point point' : Point} (hpoint : s.points[i]? = some point) {shared' : Shared}
    (heffect : Effect s.shared move point point' shared') :
    (handed ⟨shared', s.points.set i point'⟩).Subperm
      ((Turn.caller i move).sent?.toList ++ handed s) := by
  have hset := filterMap_set_perm Point.text? hpoint point'
  have hstay {order : List String} (horder : order = s.shared.order)
      (htexts : ((s.points.set i point').filterMap Point.text?).Perm
        (s.points.filterMap Point.text?)) :
      ((s.points.set i point').filterMap Point.text? ++ order).Subperm
        ((Turn.caller i move).sent?.toList ++ handed s) := by
    rw [horder]
    exact (htexts.append_right _).subperm.trans (List.sublist_append_right _ _).subperm
  unfold handed
  cases heffect with
  | grant now message hmessage room => exact (hset.append_right s.shared.order).subperm
  | store message =>
      exact ((append_snoc_perm ..).trans (hset.append_right s.shared.order)).subperm
  | _ => exact hstay rfl hset

private theorem handed_take (turn : Turn) (s : Threads Shared Point) :
    (handed (turn.take s)).Subperm (turn.sent?.toList ++ handed s) := by
  cases turn with
  | caller i move =>
      rcases Threads.step_cases act i move s with
        hrest | ⟨point, point', shared', hpoint, hact, hstep⟩
      · change (handed (s.step act i move)).Subperm _
        rw [hrest]
        exact (List.sublist_append_right _ _).subperm
      · change (handed (s.step act i move)).Subperm _
        rw [hstep]
        exact handed_of_effect hpoint (effect_of_act hact)
  | relay =>
      simp only [Turn.take]
      split <;> exact .refl _
  | network o => exact .refl _

private theorem handed_run (turns : List Turn) (s : Threads Shared Point) :
    (handed (runTurns turns s)).Subperm (turns.filterMap Turn.sent? ++ handed s) := by
  induction turns generalizing s with
  | nil => exact .refl _
  | cons turn rest ih =>
      have hturn := (List.subperm_append_left (rest.filterMap Turn.sent?)).mpr (handed_take turn s)
      have hrow : (rest.filterMap Turn.sent? ++ (turn.sent?.toList ++ handed s)).Perm
          ((turn :: rest).filterMap Turn.sent? ++ handed s) := by
        rw [filterMap_cons_eq, List.append_assoc]
        exact List.perm_append_comm_assoc _ _ _
      exact ((ih (turn.take s)).trans hturn).trans hrow.subperm

private theorem handed_start (settings : Settings) (now threads : Nat) :
    handed (.start (.new settings now) .idle threads) = [] := by
  simp [handed, Threads.start, Shared.new, Point.text?]

private theorem order_subperm_sent (settings : Settings) (now threads : Nat) (turns : List Turn) :
    (reached settings now threads turns).shared.order.Subperm (turns.filterMap Turn.sent?) := by
  have hrun := handed_run turns (.start (.new settings now) .idle threads)
  rw [handed_start, List.append_nil] at hrun
  exact (List.sublist_append_right _ _).subperm.trans hrun

theorem Account.Settled.flatMap_past {a : Account} (ha : a.Settled) :
    (a.past.flatMap Link.taken).flatMap frame =
      a.past.flatMap fun link => link.written ++ link.discarded := by
  rw [List.flatMap_assoc]
  apply List.flatMap_congr
  intro link hlink
  exact (ha.past link hlink).symm

theorem Account.Settled.flatMap_live {a : Account} (ha : a.Settled) :
    (a.live.toList.flatMap Link.taken).flatMap frame =
      a.live.toList.flatMap Link.written ++ a.buffer.bytes := by
  cases hlive : a.live with
  | none => simp [ha.offline hlive, FrameBuffer.empty]
  | some link => simpa using (ha.live link hlive).symm

/-- What was stored has been taken, link by link, or waits in the queue, and each link's bytes are
the frames of what was taken for it. Without a link nothing is taken and the buffer is empty, so a
new link begins with a whole frame. Each message stored is that of a send of its own, and has been
counted as accepted once or is its sender's to count. -/
theorem delivery_accounted (settings : Settings) (now threads : Nat) (turns : List Turn) :
    let system := reached settings now threads turns
    let s := system.shared
    let shipper := s.uplink.shipper
    (system.points.filterMap Point.place? ++ s.accepted).Perm (List.range s.order.length) ∧
      s.order.Subperm (turns.filterMap Turn.sent?) ∧
      s.order = shipper.links.flatMap Link.taken ++ texts shipper.backlog ∧
      (∀ message ∈ s.order, message ≠ "") ∧
      (∀ link ∈ shipper.past,
        link.written ++ link.discarded = link.taken.flatMap frame) ∧
      (∀ link, shipper.live? = some link →
        link.written ++ shipper.buffer.bytes = link.taken.flatMap frame) ∧
      (shipper.phase.stage ≠ .sendLoop → shipper.live? = none) ∧
      (shipper.live? = none → shipper.buffer = .empty ∧
        ∀ o, (shipper.step o).backlog = shipper.backlog ∧
          ∀ link, (shipper.step o).live? = some link →
            link.taken = [] ∧ link.written = [] ∧ (shipper.step o).buffer = .empty) ∧
      s.order.flatMap frame =
        shipper.past.flatMap (fun link => link.written ++ link.discarded) ++
          shipper.live?.toList.flatMap Link.written ++ shipper.buffer.bytes ++
          (texts shipper.backlog).flatMap frame := by
  intro system s shipper
  have haccounted := accounted_run settings now threads turns
  have hsettled : shipper.account.Settled := haccounted.settled
  have horder : s.order = shipper.links.flatMap Link.taken ++ texts shipper.backlog :=
    haccounted.order_eq
  refine ⟨placed_run settings now threads turns, order_subperm_sent settings now threads turns,
    horder, ?_, hsettled.past, hsettled.live, Shipper.live?_of_phase, ?_, ?_⟩
  · rw [horder]
    exact hsettled.nonempty
  · intro hoffline
    refine ⟨hsettled.offline hoffline, ?_⟩
    intro o
    rcases Shipper.account_step_of_offline hoffline o with hsame | ⟨endpoint, hconnect⟩
    · refine ⟨congrArg Account.queue hsame, ?_⟩
      intro link hlink
      have hlive : (shipper.step o).live? = shipper.live? := congrArg Account.live hsame
      rw [hlive, hoffline] at hlink
      cases hlink
    · refine ⟨congrArg Account.queue hconnect, ?_⟩
      intro link hlink
      have hlive : (shipper.step o).live? = some { endpoint } := congrArg Account.live hconnect
      have hbuffer : (shipper.step o).buffer = shipper.buffer := congrArg Account.buffer hconnect
      rw [hlive, Option.some.injEq] at hlink
      subst hlink
      exact ⟨rfl, rfl, hbuffer.trans (hsettled.offline hoffline)⟩
  · have hlinks : shipper.links = shipper.past ++ shipper.live?.toList := rfl
    rw [horder, hlinks, List.flatMap_append, List.flatMap_append, List.flatMap_append]
    apply congrArg (· ++ (texts shipper.backlog).flatMap frame)
    rw [List.append_assoc]
    exact congrArg₂ (· ++ ·) hsettled.flatMap_past hsettled.flatMap_live

end Uplink

end LogShipping
