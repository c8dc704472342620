import LogShipping.Proofs.Uplink.Release

/-!
How much can wait to be sent over a connection that takes nothing. Entries are taken one in a pass,
and none while too many bytes wait. So what waits is at most what may wait and one frame more, and
neither is more than that taken from the queue for a connection that stands still.
-/

namespace LogShipping

namespace Uplink

open Network

def longest (messages : List String) : Nat :=
  (messages.map fun message => (Text.utf8 message).length).max?.getD 0

private theorem length_le_longest {message : String} {messages : List String}
    (h : message ∈ messages) : (Text.utf8 message).length ≤ longest messages :=
  List.le_max?_getD_of_mem (List.mem_map.mpr ⟨message, h, rfl⟩)

private theorem longest_mono {messages others : List String} (h : messages ⊆ others) :
    longest messages ≤ longest others := by
  cases hmax : (messages.map fun message => (Text.utf8 message).length).max? with
  | none => simp [longest, hmax]
  | some most =>
      obtain ⟨message, hmem, rfl⟩ := List.mem_map.mp (List.max?_mem hmax)
      rw [longest, hmax]
      exact length_le_longest (h hmem)

namespace Account

/-- What is not written of the messages taken for a connection is at most `limit` bytes and one
frame, whether it waits or was discarded. -/
structure Bounded (limit : Nat) (a : Account) : Prop where
  live : ∀ link, a.live = some link → a.buffer.size ≤ limit + longest link.taken + 1
  past : ∀ link ∈ a.past, link.discarded.length ≤ limit + longest link.taken + 1
  offline : a.live = none → a.buffer = .empty

private theorem Bounded.entry {limit : Nat} {a b : Account} (ha : Bounded limit a) (h : Entry a b)
    (hqueue : b.queue = a.queue) : Bounded limit b := by
  cases h with
  | @connect endpoint offline =>
      refine ⟨?_, ha.past, by simp⟩
      intro link hlink
      simp [ha.offline offline, FrameBuffer.empty, FrameBuffer.size]
  | passBarrier online popped => exact ⟨ha.live, ha.past, ha.offline⟩
  | @takeText link message queue online popped =>
      have hitems := congrArg List.length (Backlog.items_pop? popped)
      rw [List.length_cons, ← show queue = a.queue from hqueue] at hitems
      omega
  | @send link sent rest online parted =>
      refine ⟨?_, ha.past, by simp⟩
      intro link' hlink
      obtain rfl := Option.some.inj hlink
      have hbuffer := ha.live link online
      have hsize : sent.length + rest.size = a.buffer.size := by
        rw [FrameBuffer.size, FrameBuffer.size, ← parted, List.length_append]
      dsimp only
      omega
  | @lose link online =>
      refine ⟨by simp, ?_, by simp⟩
      intro link' hmem
      rcases List.mem_append.mp hmem with hpast | hlast
      · exact ha.past link' hpast
      · rw [List.mem_singleton] at hlast
        subst hlast
        exact ha.live link online

/-- The connection `link`, made after those of `past`, with what it has taken and written since. -/
def Continued (past : List Link) (link : Link) (a : Account) : Prop :=
  ∃ (link' : Link) (later : List Link), a.links = past ++ link' :: later ∧
    link.taken <+: link'.taken ∧ link.written <+: link'.written

theorem Entry.links_cases {a b : Account} (h : Entry a b) :
    (∃ new, b.links = a.links ++ [new]) ∨ b.links = a.links ∨
      ∃ init last last', a.links = init ++ [last] ∧ b.links = init ++ [last'] ∧
        last.taken <+: last'.taken ∧ last.written <+: last'.written := by
  cases h with
  | connect endpoint offline => exact .inl ⟨{ endpoint }, by simp [links, offline]⟩
  | passBarrier online popped => exact .inr (.inl rfl)
  | @takeText link message queue online popped =>
      refine .inr (.inr ⟨a.past, link, { link with taken := link.taken ++ [message] }, ?_, rfl, ?_,
        ?_⟩)
      · rw [links, online]
        rfl
      · exact List.prefix_append _ _
      · exact List.prefix_rfl
  | @send link sent rest online parted =>
      refine .inr (.inr ⟨a.past, link, { link with written := link.written ++ sent }, ?_, rfl, ?_,
        ?_⟩)
      · rw [links, online]
        rfl
      · exact List.prefix_rfl
      · exact List.prefix_append _ _
  | @lose link online =>
      refine .inr (.inr ⟨a.past, link, { link with discarded := a.buffer.bytes }, ?_, ?_, ?_, ?_⟩)
      · rw [links, online]
        rfl
      · exact List.append_nil _
      · exact List.prefix_rfl
      · exact List.prefix_rfl

private theorem Continued.entry {past : List Link} {link : Link} {a b : Account} (h : Entry a b)
    (ha : Continued past link a) : Continued past link b := by
  obtain ⟨link', later, hlinks, htaken, hwritten⟩ := ha
  rcases h.links_cases with ⟨new, hnew⟩ | hsame | ⟨init, last, last', ha, hb, htaken', hwritten'⟩
  · exact ⟨link', later ++ [new], by simp [hnew, hlinks], htaken, hwritten⟩
  · exact ⟨link', later, hsame.trans hlinks, htaken, hwritten⟩
  · rw [hlinks] at ha
    rcases List.eq_nil_or_concat later with rfl | ⟨between, other, rfl⟩
    · obtain ⟨rfl, hlast⟩ := List.append_inj' ha rfl
      obtain rfl := List.singleton_inj.mp hlast
      exact ⟨last', [], hb, htaken.trans htaken', hwritten.trans hwritten'⟩
    · rw [List.concat_eq_append, ← List.cons_append, ← List.append_assoc] at ha
      obtain ⟨rfl, -⟩ := List.append_inj' ha rfl
      exact ⟨link', between ++ [last'], by simp [hb], htaken, hwritten⟩

private theorem Bounded.exists_rest {limit : Nat} {a : Account} (ha : Bounded limit a)
    (hsettled : a.Settled) {link : Link} (hmem : link ∈ a.links) :
    ∃ rest : List UInt8, link.written ++ rest = link.taken.flatMap frame ∧
      rest.length ≤ limit + longest link.taken + 1 := by
  rcases List.mem_append.mp hmem with hpast | hlive
  · exact ⟨link.discarded, hsettled.past link hpast, ha.past link hpast⟩
  · have honline : a.live = some link := Option.mem_toList.mp hlive
    exact ⟨a.buffer.bytes, hsettled.live link honline, ha.live link honline⟩

/-- A connection that has written nothing more since has not been given much more either. -/
theorem Bounded.length_frames {limit : Nat} {a : Account} (ha : Bounded limit a)
    (hsettled : a.Settled) {link link' : Link} (hmem : link' ∈ a.links) {rest : List UInt8}
    (hrest : link.written ++ rest = link.taken.flatMap frame) {taken : List String}
    (htaken : link'.taken = link.taken ++ taken) (hwritten : link'.written = link.written) :
    (taken.flatMap frame).length ≤ limit + longest link'.taken + 1 := by
  obtain ⟨rest', hrest', hsize⟩ := ha.exists_rest hsettled hmem
  rw [hwritten, htaken, List.flatMap_append, ← hrest, List.append_assoc] at hrest'
  rw [List.append_cancel_left hrest', List.length_append] at hsize
  exact Nat.le_trans (Nat.le_add_left _ _) hsize

end Account

namespace Shipper

theorem backlog_load_cases (link : Link) (s : Shipper) :
    (s.load link).1.backlog = s.backlog ∨
      s.buffer.size ≤ s.settings.highWater ∧
        ∃ parcel, s.backlog.pop? = some (parcel, (s.load link).1.backlog) := by
  unfold load
  split
  · exact .inl rfl
  · rename_i room
    have hsize : s.buffer.size ≤ s.settings.highWater := by
      simpa [FrameBuffer.exceeds] using room
    split
    · exact .inl rfl
    · rename_i id backlog popped
      exact .inr ⟨hsize, .barrier id, popped⟩
    · rename_i message backlog popped
      exact .inr ⟨hsize, .text message, popped⟩

private theorem bounded_load {link : Link} {s : Shipper}
    (h : (s.accountWith link).Bounded s.settings.highWater) :
    ((s.load link).1.accountWith (s.load link).2).Bounded s.settings.highWater := by
  unfold load
  split
  · exact h
  · rename_i room
    split
    · exact h
    · exact ⟨h.live, h.past, h.offline⟩
    · rename_i message backlog popped
      refine ⟨?_, h.past, by simp [accountWith]⟩
      intro link' hlink
      obtain rfl := Option.some.inj hlink
      have hmessage : (Text.utf8 message).length ≤ longest (link.taken ++ [message]) :=
        length_le_longest (List.mem_append_right _ (List.mem_singleton_self _))
      have hsize : s.buffer.size ≤ s.settings.highWater := by
        simpa [FrameBuffer.exceeds] using room
      simp only [accountWith]
      split
      · omega
      · simp only [FrameBuffer.size, FrameBuffer.bytes_push, frame, List.length_append,
          List.length_singleton] at hsize ⊢
        omega

private theorem backlog_lose (cause : IoError) (link : Link) (o : Outside) (s : Shipper) :
    (s.lose cause link o).backlog = s.backlog :=
  congrArg Account.queue (account_lose cause link o s)

private theorem backlog_unload (link : Link) (o : Outside) (s : Shipper) :
    (s.unload link o).backlog = s.backlog := by
  unfold unload
  split
  · rfl
  · exact backlog_lose _ link o s

theorem backlog_ship_cases (link : Link) (o : Outside) (s : Shipper) :
    (s.ship link o).backlog = s.backlog ∨
      s.buffer.size ≤ s.settings.highWater ∧
        ∃ parcel, s.backlog.pop? = some (parcel, (s.ship link o).backlog) := by
  cases hread : o.read.isLoss with
  | true =>
      obtain ⟨cause, hlose⟩ := ship_of_isLoss hread link s
      rw [hlose]
      exact .inl (backlog_lose cause link o s)
  | false =>
      rw [ship_of_not_isLoss hread, backlog_unload]
      exact backlog_load_cases link s

theorem backlog_step_cases (o : Outside) (s : Shipper) :
    (s.step o).backlog = s.backlog ∨
      s.buffer.size ≤ s.settings.highWater ∧
        ∃ parcel, s.backlog.pop? = some (parcel, (s.step o).backlog) := by
  cases hlive : s.live? with
  | none =>
      rcases account_step_of_offline hlive o with hsame | ⟨endpoint, hconnect⟩
      · exact .inl (congrArg Account.queue hsame)
      · exact .inl (congrArg Account.queue hconnect)
  | some link =>
      rcases step_of_live? hlive o with hsame | ⟨-, -, hship⟩
      · exact .inl (congrArg Account.queue hsame)
      · have hcases := backlog_ship_cases link o s.publish
        obtain ⟨journal, hpublish⟩ := publish_eq s
        rw [hship]
        rw [hpublish] at hcases ⊢
        exact hcases

private theorem bounded_ship {link : Link} {s : Shipper} (hrunning : s.halted = none)
    (h : (s.accountWith link).Bounded s.settings.highWater) (o : Outside) :
    (s.ship link o).account.Bounded s.settings.highWater := by
  cases hread : o.read.isLoss with
  | true =>
      obtain ⟨cause, hlose⟩ := ship_of_isLoss hread link s
      rw [hlose]
      exact h.entry (entry_lose cause link o s) (backlog_lose cause link o s)
  | false =>
      rw [ship_of_not_isLoss hread]
      exact (bounded_load h).entry (entry_unload ((halted_load link s).trans hrunning) _ o)
        (backlog_unload _ o _)

private theorem accountWith_of_live? {s : Shipper} {link : Link} (h : s.live? = some link) :
    s.accountWith link = s.account := by
  rw [account, h]
  rfl

theorem bounded_step {s : Shipper} (h : s.account.Bounded s.settings.highWater) (o : Outside) :
    (s.step o).account.Bounded s.settings.highWater := by
  cases hlive : s.live? with
  | none =>
      rcases account_step_of_offline hlive o with hsame | ⟨endpoint, hconnect⟩
      · rw [hsame]
        exact h
      · rw [hconnect]
        exact h.entry (.connect endpoint hlive) rfl
  | some link =>
      rcases step_of_live? hlive o with hsame | ⟨hrunning, -, hship⟩
      · rw [hsame]
        exact h
      · have honline : s.publish.live? = some link :=
          (congrArg Account.live s.account_publish).trans hlive
        rw [hship, ← s.settings_publish]
        apply bounded_ship ((halted_publish s).trans hrunning)
        rw [accountWith_of_live? honline, account_publish, settings_publish]
        exact h

/-- The accounts in the middle of a pass, when an entry has been taken from the queue and nothing
has been written yet. -/
def midway (link : Link) (s : Shipper) : Account :=
  (s.load link).1.accountWith (s.load link).2

end Shipper

private theorem Account.Bounded.size_le {limit : Nat} {a : Account} (h : a.Bounded limit) :
    a.buffer.size ≤ limit + longest a.shipped + 1 := by
  cases hlive : a.live with
  | none => simp [h.offline hlive, FrameBuffer.empty, FrameBuffer.size]
  | some link =>
      have htaken : longest link.taken ≤ longest a.shipped := by
        apply longest_mono
        intro message hmem
        exact List.mem_flatMap.mpr ⟨link, by simp [links, hlive], hmem⟩
      have hsize := h.live link hlive
      omega

theorem bounded_run (settings : Settings) (now threads : Nat) (turns : List Turn) :
    (shipperAfter settings now threads turns).account.Bounded settings.highWater := by
  have h := shipper_induction settings now threads
    (P := fun s => s.account.Bounded s.settings.highWater) ?_ ?_ ?_ turns
  · rwa [settings_shipperAfter] at h
  · exact ⟨by simp [Shipper.new, Shipper.account, Shipper.live?],
      by simp [Shipper.new, Shipper.account], fun _ => rfl⟩
  · intro s o h
    rw [Shipper.settings_step]
    exact Shipper.bounded_step h o
  · intro s s' hsame h
    have hlive : s'.account.live = s.account.live := Shipper.live?_of_helm hsame
    have hbuffer : s'.account.buffer = s.account.buffer := congrArg Helm.buffer hsame
    have hpast : s'.account.past = s.account.past := congrArg Helm.past hsame
    have hsettings : s'.settings = s.settings := congrArg Helm.settings hsame
    refine ⟨?_, ?_, ?_⟩
    · rw [hlive, hbuffer, hsettings]
      exact h.live
    · rw [hpast, hsettings]
      exact h.past
    · rw [hlive, hbuffer]
      exact h.offline

theorem continued_run (settings : Settings) (now threads : Nat) (turns : List Turn) {link : Link}
    (hlive : (shipperAfter settings now threads turns).live? = some link) (later : List Turn) :
    Account.Continued (shipperAfter settings now threads turns).past link
      (shipperAfter settings now threads (turns ++ later)).account := by
  induction later using List.reverseRecOn with
  | nil =>
      refine ⟨link, [], ?_, List.prefix_rfl, List.prefix_rfl⟩
      rw [List.append_nil, Account.links, Shipper.account, hlive]
      rfl
  | append_singleton later turn ih =>
      rw [← List.append_assoc]
      rcases shipperAfter_concat settings now threads (turns ++ later) turn with
        ⟨o, -, hstep⟩ | ⟨-, hsame⟩
      · rw [hstep]
        exact (Shipper.entries_step _ o).keeps (fun a b entry ha => ha.entry entry) ih
      · obtain ⟨link', others, hlinks, hgrown⟩ := ih
        exact ⟨link', others, (Shipper.links_of_helm hsame).trans hlinks, hgrown⟩

private theorem size_midway_le (settings : Settings) (now threads : Nat) (turns : List Turn)
    {link : Link} (hlive : (shipperAfter settings now threads turns).live? = some link) :
    let a := (shipperAfter settings now threads turns).midway link
    a.buffer.size ≤ settings.highWater + longest a.shipped + 1 := by
  intro a
  have hsettings := settings_shipperAfter settings now threads turns
  have hmidway : a.Bounded (shipperAfter settings now threads turns).settings.highWater := by
    apply Shipper.bounded_load
    rw [Shipper.accountWith_of_live? hlive, hsettings]
    exact bounded_run settings now threads turns
  rw [hsettings] at hmidway
  exact hmidway.size_le

private theorem length_frames_later (settings : Settings) (now threads : Nat)
    (turns later : List Turn) {link : Link}
    (hlive : (shipperAfter settings now threads turns).live? = some link) : ∃ link' others taken,
      (shipperAfter settings now threads (turns ++ later)).links =
        (shipperAfter settings now threads turns).past ++ link' :: others ∧
      link'.taken = link.taken ++ taken ∧ link.written <+: link'.written ∧
      (link'.written = link.written →
        (taken.flatMap frame).length ≤ settings.highWater + longest link'.taken + 1) := by
  obtain ⟨link', others, hlinks, ⟨taken, htaken⟩, hwritten⟩ :=
    continued_run settings now threads turns hlive later
  refine ⟨link', others, taken, hlinks, htaken.symm, hwritten, fun hsame => ?_⟩
  have hstart := (accounted_run settings now threads turns).settled
  have hsettled := (accounted_run settings now threads (turns ++ later)).settled
  have hbounded := bounded_run settings now threads (turns ++ later)
  have hmem : link' ∈ (shipperAfter settings now threads (turns ++ later)).account.links := by
    rw [hlinks]
    exact List.mem_append_right _ List.mem_cons_self
  exact hbounded.length_frames hsettled hmem (hstart.live link hlive) htaken.symm hsame

/-- The buffer never holds more than may wait and the longest message taken so far with its
delimiter, in the middle of a pass neither. A pass takes one entry from the queue or none, and none
while more waits than may. So as long as a connection writes nothing, the frames of all messages
taken for it meanwhile are no more than that, however many are stored. -/
theorem buffer_bounded (settings : Settings) (now threads : Nat) (turns later : List Turn) :
    let s := shipperAfter settings now threads turns
    let s' := shipperAfter settings now threads (turns ++ later)
    s.buffer.size ≤ settings.highWater + longest s.account.shipped + 1 ∧
      (∀ o, (s.step o).backlog = s.backlog ∨ s.buffer.size ≤ settings.highWater ∧
        ∃ parcel, s.backlog.pop? = some (parcel, (s.step o).backlog)) ∧
      ∀ link, s.live? = some link →
        (s.midway link).buffer.size ≤
            settings.highWater + longest (s.midway link).shipped + 1 ∧
          ∃ link' others taken, s'.links = s.past ++ link' :: others ∧
            link'.taken = link.taken ++ taken ∧ link.written <+: link'.written ∧
            (link'.written = link.written →
              (taken.flatMap frame).length ≤ settings.highWater + longest link'.taken + 1) := by
  intro s s'
  refine ⟨(bounded_run settings now threads turns).size_le, fun o => ?_, fun link hlive =>
    ⟨size_midway_le settings now threads turns hlive,
      length_frames_later settings now threads turns later hlive⟩⟩
  have hsettings : s.settings = settings := settings_shipperAfter settings now threads turns
  have hcases := Shipper.backlog_step_cases o s
  rw [hsettings] at hcases
  exact hcases

/-- The bound is reached: three bytes may wait, and a message of four bytes is taken behind them. -/
example :
    let settings : Settings := { Settings.forServer "logs" 12201 with highWater := 3 }
    let stuck : Outside := { tick := .start, write := fun _ => .failed .wouldBlock }
    let turns : List Turn :=
      [.caller 0 (.send 0 "ab"), .caller 0 .resume, .caller 0 .resume,
        .caller 0 (.send 0 "abcd"), .caller 0 .resume, .caller 0 .resume,
        .caller 0 (.send 0 "x"), .caller 0 .resume, .caller 0 .resume,
        .network { tick := .start, found := some (.ok [⟨.v4 #v[127, 0, 0, 1], 12201⟩]) },
        .network { tick := .start, reachable := fun _ => true },
        .network stuck, .network stuck, .network stuck]
    (shipperAfter settings 0 1 turns).buffer.size = 3 + 4 + 1 := by
  decide +kernel

end Uplink

end LogShipping
