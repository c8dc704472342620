import LogShipping.Proofs.Uplink.Delivery
import LogShipping.Proofs.Uplink.Transitions

namespace LogShipping

namespace Uplink

open Network

namespace Shipper

private theorem phase_of_live? {s : Shipper} {link : Link} (h : s.live? = some link) :
    s.phase = .sendLoop link := by
  unfold live? at h
  split at h
  · cases h
  · split at h
    · rename_i hphase
      rw [hphase, Option.some.inj h]
    · cases h

theorem step_of_live? {s : Shipper} {link : Link} (h : s.live? = some link) (o : Outside) :
    (s.step o).account = s.account ∨
      s.halted = none ∧ o.shutdown = false ∧ s.step o = s.publish.ship link o := by
  by_cases hhalted : s.halted = none
  · cases hshutdown : o.shutdown with
    | true =>
        left
        rw [step_of_shutdown hhalted hshutdown, ← s.account_publish]
        exact account_stop ((halted_publish s).trans hhalted)
    | false =>
        right
        exact ⟨hhalted, rfl, by rw [step_of_running hhalted hshutdown, phase_of_live? h]⟩
  · left
    rw [step_of_halted hhalted]

private theorem offered {s : Shipper} (h : s.halted = none) (link : Link) (o : Outside) :
    (∃ sent, s.buffer.write (o.write s.buffer.size) = ((s.unload link o).buffer, .ok sent) ∧
        (s.unload link o).live? = some { link with written := link.written ++ sent }) ∨
      (∃ cause, s.buffer.write (o.write s.buffer.size) = (s.buffer, .error cause)) ∧
        (s.unload link o).past = s.past ++ [{ link with discarded := s.buffer.bytes }] ∧
        (s.unload link o).buffer = .empty := by
  rcases hwrite : s.buffer.write (o.write s.buffer.size) with ⟨rest, cause | sent⟩
  · right
    have hlost := account_lose cause link o s
    obtain rfl := FrameBuffer.write_error hwrite
    simp only [unload, hwrite]
    exact ⟨⟨cause, rfl⟩, congrArg Account.past hlost, congrArg Account.buffer hlost⟩
  · left
    simp only [unload, hwrite]
    exact ⟨sent, rfl, by simp [live?, h]⟩

end Shipper

end Uplink

end LogShipping
