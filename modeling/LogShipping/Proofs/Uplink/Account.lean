import LogShipping.Uplink.Shipper
import Mathlib.Logic.Relation

/-!
The accounts of a shipper: what has left the queue, what of it has left the buffer, and over which
connection. One pass of the loop is a short run of entries in these accounts, so whatever each entry
keeps, every pass keeps.
-/

namespace LogShipping.Uplink

open Network

def Parcel.text? : Parcel → Option String
  | text message => some message
  | barrier _ => none

def texts (queue : Backlog Parcel) : List String :=
  queue.items.filterMap Parcel.text?

@[simp] theorem texts_store_text (message : String) (queue : Backlog Parcel) :
    texts (queue.store ⟨.text message, true⟩) = texts queue ++ [message] := by
  simp [texts, Backlog.items, Backlog.store, Parcel.text?]

@[simp] theorem texts_pushUncounted_barrier (id : Nat) (queue : Backlog Parcel) :
    texts (queue.pushUncounted (.barrier id)) = texts queue := by
  simp [texts, Parcel.text?]

theorem texts_of_pop?_text {queue rest : Backlog Parcel} {message : String}
    (h : queue.pop? = some (.text message, rest)) : texts queue = message :: texts rest := by
  simp [texts, Backlog.items_pop? h, Parcel.text?]

private theorem texts_of_pop?_barrier {queue rest : Backlog Parcel} {id : Nat}
    (h : queue.pop? = some (.barrier id, rest)) : texts queue = texts rest := by
  rw [texts, Backlog.items_pop? h]
  rfl

structure Account where
  queue : Backlog Parcel
  released : List Nat
  past : List Link
  live : Option Link
  buffer : FrameBuffer

namespace Account

def links (a : Account) : List Link :=
  a.past ++ a.live.toList

def shipped (a : Account) : List String :=
  a.links.flatMap Link.taken

def stored (a : Account) : List String :=
  a.shipped ++ texts a.queue

inductive Entry : Account → Account → Prop
  | connect {a : Account} (endpoint : Endpoint) (offline : a.live = none) :
      Entry a { a with live := some { endpoint } }
  | passBarrier {a : Account} {link : Link} {id : Nat} {queue : Backlog Parcel}
      (online : a.live = some link) (popped : a.queue.pop? = some (.barrier id, queue)) :
      Entry a { a with queue, released := a.released ++ [id] }
  | takeText {a : Account} {link : Link} {message : String} {queue : Backlog Parcel}
      (online : a.live = some link) (popped : a.queue.pop? = some (.text message, queue)) :
      Entry a
        { a with
          queue
          live := some { link with taken := link.taken ++ [message] }
          buffer := if message.isEmpty then a.buffer else a.buffer.push message }
  | send {a : Account} {link : Link} {sent : List UInt8} {rest : FrameBuffer}
      (online : a.live = some link) (parted : sent ++ rest.bytes = a.buffer.bytes) :
      Entry a { a with live := some { link with written := link.written ++ sent }, buffer := rest }
  | lose {a : Account} {link : Link} (online : a.live = some link) :
      Entry a
        { a with
          past := a.past ++ [{ link with discarded := a.buffer.bytes }]
          live := none
          buffer := .empty }

abbrev Entries : Account → Account → Prop :=
  Relation.ReflTransGen Entry

theorem Entries.keeps {P : Account → Prop} (keep : ∀ a b, Entry a b → P a → P b)
    {a b : Account} (h : Entries a b) (ha : P a) : P b := by
  induction h with
  | refl => exact ha
  | tail _ entry ih => exact keep _ _ entry ih

theorem Entry.queue_cases {a b : Account} (h : Entry a b) :
    (b.queue = a.queue ∧ b.released = a.released ∧ b.shipped = a.shipped) ∨
      (∃ id, a.queue.pop? = some (.barrier id, b.queue) ∧ b.released = a.released ++ [id] ∧
        b.shipped = a.shipped) ∨
      ∃ message, a.queue.pop? = some (.text message, b.queue) ∧ b.released = a.released ∧
        b.shipped = a.shipped ++ [message] := by
  cases h with
  | connect endpoint offline => exact .inl ⟨rfl, rfl, by simp [shipped, links, offline]⟩
  | @passBarrier link id queue online popped => exact .inr (.inl ⟨id, popped, rfl, rfl⟩)
  | @takeText link message queue online popped =>
      exact .inr (.inr ⟨message, popped, rfl, by simp [shipped, links, online]⟩)
  | send online parted => exact .inl ⟨rfl, rfl, by simp [shipped, links, online]⟩
  | lose online => exact .inl ⟨rfl, rfl, by simp [shipped, links, online]⟩

theorem Entry.stored_eq {a b : Account} (h : Entry a b) : b.stored = a.stored := by
  unfold stored
  rcases h.queue_cases with ⟨hqueue, -, hshipped⟩ | ⟨id, popped, -, hshipped⟩ |
    ⟨message, popped, -, hshipped⟩
  · rw [hqueue, hshipped]
  · rw [hshipped, texts_of_pop?_barrier popped]
  · rw [hshipped, texts_of_pop?_text popped, List.append_assoc]
    rfl

end Account

namespace Shipper

def account (s : Shipper) : Account :=
  ⟨s.backlog, s.released, s.past, s.live?, s.buffer⟩

/-- The accounts in the middle of a pass, when the phase does not show yet what the connection in
use has come to. -/
def accountWith (link : Link) (s : Shipper) : Account :=
  ⟨s.backlog, s.released, s.past, some link, s.buffer⟩

@[simp] theorem account_note (event : Event) (s : Shipper) :
    (s.note event).account = s.account := rfl

@[simp] theorem account_publish (s : Shipper) : s.publish.account = s.account := by
  unfold publish
  split <;> rfl

theorem live?_of_phase {s : Shipper} (h : s.phase.stage ≠ .sendLoop) : s.live? = none := by
  unfold live?
  cases hphase : s.phase with
  | sendLoop link => simp [hphase, Phase.stage] at h
  | addressLookup => simp
  | retryWait deadline => simp
  | connecting plan => simp

private theorem account_retryAfter (delay : Span) (o : Outside) (s : Shipper) :
    (s.retryAfter delay o).account = { s.account with live := none } := by
  unfold retryAfter
  split <;> simp [account, live?]

theorem account_lose (cause : IoError) (link : Link) (o : Outside) (s : Shipper) :
    (s.lose cause link o).account =
      { s.account with
        past := s.past ++ [{ link with discarded := s.buffer.bytes }]
        live := none
        buffer := .empty } := by
  unfold lose
  rw [account_retryAfter]
  rfl

@[simp] theorem halted_publish (s : Shipper) : s.publish.halted = s.halted := by
  unfold publish
  split <;> rfl

theorem account_stop {s : Shipper} (h : s.halted = none) :
    ({ s with halted := some .stopped } : Shipper).account = s.account := by
  simp [account, live?, h]

private theorem account_move {s : Shipper} (h : s.live? = none) {phase : Phase}
    (hphase : phase.stage ≠ .sendLoop) : ({ s with phase } : Shipper).account = s.account := by
  have hlive : ({ s with phase } : Shipper).live? = none := live?_of_phase hphase
  simp only [account, h, hlive]

private theorem account_lookUp {s : Shipper} (h : s.live? = none) (o : Outside) :
    (s.lookUp o).account = s.account := by
  have hsame : ({ s.account with live := none } : Account) = s.account := by
    simp [account, h]
  unfold lookUp
  split
  · rfl
  · rw [account_retryAfter, account_note, hsame]
  · exact account_move h (by simp [Phase.stage])
  · rw [account_retryAfter, account_note, hsame]

private theorem account_wait {s : Shipper} (h : s.live? = none) (deadline : Tick) (o : Outside) :
    (s.wait deadline o).account = s.account := by
  unfold wait
  split
  · exact account_move h (by simp [Phase.stage])
  · rfl

private theorem account_dial {s : Shipper} (hhalted : s.halted = none) (h : s.live? = none)
    (plan : DialPlan) (o : Outside) :
    (s.dial plan o).account = s.account ∨
      ∃ endpoint, (s.dial plan o).account = { s.account with live := some { endpoint } } := by
  have hsame : ({ s.account with live := none } : Account) = s.account := by
    simp [account, h]
  unfold dial
  split
  · left
    rw [account_retryAfter, hsame]
  · rename_i endpoint rest _
    split
    · right
      exact ⟨endpoint, by simp [account, live?, note, hhalted]⟩
    · left
      split
      · rw [account_retryAfter, account_note, hsame]
      · exact account_move (s := s.note _) h (by simp [Phase.stage])

/-- A pass without a connection may get one, and otherwise leaves the accounts alone. -/
theorem account_step_of_offline {s : Shipper} (h : s.live? = none) (o : Outside) :
    (s.step o).account = s.account ∨
      ∃ endpoint, (s.step o).account = { s.account with live := some { endpoint } } := by
  by_cases hhalted : s.halted.isSome
  · left
    simp [step, hhalted]
  · have hrunning : s.publish.halted = none := by
      simpa using hhalted
    have hoffline : s.publish.live? = none := by
      have hlive := congrArg Account.live s.account_publish
      exact hlive.trans h
    simp only [step, hhalted]
    rw [← s.account_publish]
    generalize s.publish = t at hrunning hoffline
    by_cases hshutdown : o.shutdown
    · left
      simpa [hshutdown] using account_stop hrunning
    · simp only [hshutdown]
      cases hphase : t.phase with
      | addressLookup => exact .inl (account_lookUp hoffline o)
      | retryWait deadline => exact .inl (account_wait hoffline deadline o)
      | connecting plan => exact account_dial hrunning hoffline plan o
      | sendLoop link => simp [live?, hrunning, hphase] at hoffline

private theorem entries_load (link : Link) (s : Shipper) :
    Account.Entries (s.accountWith link) ((s.load link).1.accountWith (s.load link).2) := by
  unfold load
  split
  · exact .refl
  · split
    · exact .refl
    · rename_i id queue popped
      exact .single (.passBarrier rfl popped)
    · rename_i message queue popped
      exact .single (.takeText rfl popped)

theorem halted_load (link : Link) (s : Shipper) : (s.load link).1.halted = s.halted := by
  unfold load
  split
  · rfl
  · split <;> rfl

theorem entry_lose (cause : IoError) (link : Link) (o : Outside) (s : Shipper) :
    Account.Entry (s.accountWith link) (s.lose cause link o).account := by
  rw [account_lose]
  exact .lose rfl

theorem entry_unload {s : Shipper} (h : s.halted = none) (link : Link) (o : Outside) :
    Account.Entry (s.accountWith link) (s.unload link o).account := by
  unfold unload
  split
  · rename_i buffer sent hwrite
    have hparted := FrameBuffer.accepted_append_bytes hwrite
    have hentry : Account.Entry (s.accountWith link) _ := .send rfl hparted
    simpa [accountWith, account, live?, h] using hentry
  · exact entry_lose _ link o s

private theorem entries_ship {s : Shipper} (h : s.halted = none) (link : Link) (o : Outside) :
    Account.Entries (s.accountWith link) (s.ship link o).account := by
  have hmove : Account.Entries (s.accountWith link)
      ((s.load link).1.unload (s.load link).2 o).account := by
    refine (entries_load link s).tail ?_
    exact entry_unload ((halted_load link s).trans h) (s.load link).2 o
  unfold ship
  split
  · exact .single (entry_lose _ link o s)
  · split
    · exact hmove
    · exact .single (entry_lose _ link o s)
  · exact hmove

/-- One pass of the loop is a run of entries. -/
theorem entries_step (s : Shipper) (o : Outside) : Account.Entries s.account (s.step o).account := by
  cases hlive : s.live? with
  | none =>
      rcases account_step_of_offline hlive o with hsame | ⟨endpoint, hconnect⟩
      · rw [hsame]
      · rw [hconnect]
        exact .single (.connect endpoint hlive)
  | some link =>
      by_cases hhalted : s.halted.isSome
      · simp only [step, hhalted, if_true]
        exact .refl
      · have hrunning : s.publish.halted = none := by
          simpa using hhalted
        have honline : s.publish.live? = some link := by
          have hsame := congrArg Account.live s.account_publish
          exact hsame.trans hlive
        simp only [step, hhalted]
        rw [← s.account_publish]
        generalize s.publish = t at hrunning honline
        by_cases hshutdown : o.shutdown
        · simp only [hshutdown, Bool.false_eq_true, if_false, if_true]
          rw [account_stop hrunning]
        · simp only [hshutdown]
          cases hphase : t.phase with
          | addressLookup => simp [live?, hphase] at honline
          | retryWait deadline => simp [live?, hphase] at honline
          | connecting plan => simp [live?, hphase] at honline
          | sendLoop current =>
              have hcurrent : current = link := by
                simpa [live?, hrunning, hphase] using honline
              subst current
              have hstart : t.account = t.accountWith link := by
                simp [account, accountWith, honline]
              rw [hstart]
              exact entries_ship hrunning link o

end Shipper

end LogShipping.Uplink
