import Mathlib.Algebra.GroupWithZero.Nat
import Mathlib.Algebra.Order.BigOperators.Group.List
import Mathlib.Algebra.Order.Group.Nat
import Mathlib.Data.List.Perm.Basic

namespace LogShipping

variable {α β : Type}

theorem foldl_add (weight : α → Nat) (xs : List α) (start : Nat) :
    xs.foldl (fun total x => total + weight x) start = start + (xs.map weight).sum := by
  induction xs generalizing start with
  | nil => rfl
  | cons x rest ih => rw [List.foldl_cons, ih, List.map_cons, List.sum_cons, Nat.add_assoc]

theorem filterMap_cons_eq (f : α → Option β) (x : α) (xs : List α) :
    (x :: xs).filterMap f = (f x).toList ++ xs.filterMap f := by
  cases h : f x <;> simp [h]

theorem append_snoc_perm (xs ys : List α) (y : α) :
    (xs ++ (ys ++ [y])).Perm (y :: (xs ++ ys)) := by
  rw [← List.append_assoc]
  exact List.perm_append_singleton y (xs ++ ys)

/-! One element is put in place of another. -/

theorem sum_map_set (weight : α → Nat) {xs : List α} {i : Nat} {x : α} (h : xs[i]? = some x)
    (y : α) : ((xs.set i y).map weight).sum + weight x = (xs.map weight).sum + weight y := by
  obtain ⟨hi, rfl⟩ := List.getElem?_eq_some_iff.mp h
  have hset := ((List.set_perm_cons_eraseIdx hi y).map weight).sum_nat
  have hold := ((List.getElem_cons_eraseIdx_perm hi).map weight).sum_nat
  simp only [List.map_cons, List.sum_cons] at hset hold
  omega

theorem filterMap_set_perm (f : α → Option β) {xs : List α} {i : Nat} {x : α}
    (h : xs[i]? = some x) (y : α) :
    ((f x).toList ++ (xs.set i y).filterMap f).Perm ((f y).toList ++ xs.filterMap f) := by
  obtain ⟨hi, rfl⟩ := List.getElem?_eq_some_iff.mp h
  have hset := (List.set_perm_cons_eraseIdx hi y).filterMap f
  have hold := (List.getElem_cons_eraseIdx_perm hi).filterMap f
  rw [filterMap_cons_eq] at hset hold
  exact ((hset.append_left _).trans (List.perm_append_comm_assoc _ _ _)).trans (hold.append_left _)

/-- An element with a mark of its own has one place in a list. -/
theorem split_unique {mark : α → Option β} {x : α} {t : β} (hx : mark x = some t)
    {ahead ahead' behind behind' : List α}
    (hnodup : ((ahead ++ x :: behind).filterMap mark).Nodup)
    (hsame : ahead ++ x :: behind = ahead' ++ x :: behind') : ahead = ahead' := by
  have hfresh {more rest : List α} (hmore : ((x :: more ++ x :: rest).filterMap mark).Nodup) :
      False := by
    simp [hx] at hmore
  induction ahead generalizing ahead' with
  | nil =>
      cases ahead' with
      | nil => rfl
      | cons y more =>
          obtain ⟨rfl, hbehind⟩ := List.cons.inj hsame
          rw [hbehind] at hnodup
          exact (hfresh hnodup).elim
  | cons y more ih =>
      cases ahead' with
      | nil =>
          obtain ⟨rfl, -⟩ := List.cons.inj hsame
          exact (hfresh hnodup).elim
      | cons z more' =>
          obtain ⟨rfl, hmore⟩ := List.cons.inj hsame
          have hrest : ((more ++ x :: behind).filterMap mark).Nodup := by
            rw [List.cons_append, List.filterMap_cons] at hnodup
            split at hnodup
            · exact hnodup
            · exact (List.nodup_cons.mp hnodup).2
          rw [ih hrest hmore]

theorem getElem?_of_begins {l l' : List α} (h : l <+: l') {n : Nat} {a : α}
    (ha : l[n]? = some a) : l'[n]? = some a := by
  obtain ⟨more, rfl⟩ := h
  rwa [List.getElem?_append_left (List.getElem?_eq_some_iff.mp ha).1]

theorem mem_take_of_getElem? {l : List α} {n count : Nat} {a : α} (hn : n < count)
    (ha : l[n]? = some a) : a ∈ l.take count := by
  rw [← List.getElem?_take_of_lt hn] at ha
  exact List.mem_of_getElem? ha

section Related

variable {R : α → β → Prop} {as : List α} {bs : List β}

theorem related_of_mem_left (h : List.Forall₂ R as bs) {a : α} (ha : a ∈ as) : ∃ b, R a b := by
  obtain ⟨i, hi, rfl⟩ := List.mem_iff_getElem.mp ha
  exact ⟨_, h.get hi (h.length_eq ▸ hi)⟩

theorem related_of_getElem?_right (h : List.Forall₂ R as bs) {n : Nat} {b : β}
    (hb : bs[n]? = some b) : ∃ a, as[n]? = some a ∧ R a b := by
  obtain ⟨hn, rfl⟩ := List.getElem?_eq_some_iff.mp hb
  have hn' : n < as.length := h.length_eq.symm ▸ hn
  exact ⟨as[n], List.getElem?_eq_getElem hn', h.get hn' hn⟩

end Related

end LogShipping
