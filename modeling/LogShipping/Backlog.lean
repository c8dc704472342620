/-!
A queue shared by producers and one consumer.

Producers that respect a limit are admitted by a counter before their item is stored, and the
counter goes down again only after an item has been taken out. Items may also be stored without
being counted; they keep their place in the order and take no room from the others.

The first group of operations are the indivisible steps of the queue, the second group the calls
that are made of them.
-/

namespace LogShipping

structure Backlog.Entry (α : Type) where
  item : α
  counted : Bool
  deriving DecidableEq

/-- The stored entries, oldest first, and the counter of admitted ones. -/
structure Backlog (α : Type) where
  entries : List (Backlog.Entry α)
  size : Nat
  deriving DecidableEq

namespace Backlog

variable {α : Type}

def empty : Backlog α := ⟨[], 0⟩

/-- Counts one more item if fewer than `limit` are counted. -/
def admit? (limit : Nat) (q : Backlog α) : Option (Backlog α) :=
  if q.size < limit then some { q with size := q.size + 1 } else none

def count (q : Backlog α) : Backlog α :=
  { q with size := q.size + 1 }

def store (entry : Entry α) (q : Backlog α) : Backlog α :=
  { q with entries := q.entries ++ [entry] }

def take? (q : Backlog α) : Option (Entry α × Backlog α) :=
  match q.entries with
  | [] => none
  | entry :: rest => some (entry, { q with entries := rest })

/-- What is left to do once `entry` has been taken out. -/
def discount (entry : Entry α) (q : Backlog α) : Backlog α :=
  if entry.counted then { q with size := q.size - 1 } else q

def push (item : α) (q : Backlog α) : Backlog α :=
  q.count.store ⟨item, true⟩

def pushUncounted (item : α) (q : Backlog α) : Backlog α :=
  q.store ⟨item, false⟩

def tryPush? (limit : Nat) (item : α) (q : Backlog α) : Option (Backlog α) :=
  (q.admit? limit).map (store ⟨item, true⟩)

def pop? (q : Backlog α) : Option (α × Backlog α) :=
  q.take?.map fun (entry, rest) => (entry.item, rest.discount entry)

/-- Whether the counter shows nothing; entries that do not count may still be stored. -/
def isClear (q : Backlog α) : Bool :=
  q.size == 0

def items (q : Backlog α) : List α :=
  q.entries.map Entry.item

def counted (q : Backlog α) : List α :=
  (q.entries.filter Entry.counted).map Entry.item

/-- The counter tells the number of stored entries that count. -/
def Exact (q : Backlog α) : Prop :=
  q.size = q.counted.length

theorem exact_empty : (empty : Backlog α).Exact := rfl

@[simp] theorem items_empty : (empty : Backlog α).items = [] := rfl

@[simp] theorem items_store (entry : Entry α) (q : Backlog α) :
    (q.store entry).items = q.items ++ [entry.item] := by
  simp [store, items]

@[simp] theorem items_push (item : α) (q : Backlog α) :
    (q.push item).items = q.items ++ [item] := by
  simp [push, count, store, items]

@[simp] theorem items_pushUncounted (item : α) (q : Backlog α) :
    (q.pushUncounted item).items = q.items ++ [item] := by
  simp [pushUncounted, store, items]

@[simp] theorem counted_push (item : α) (q : Backlog α) :
    (q.push item).counted = q.counted ++ [item] := by
  simp [push, count, store, counted]

@[simp] theorem counted_pushUncounted (item : α) (q : Backlog α) :
    (q.pushUncounted item).counted = q.counted := by
  simp [pushUncounted, store, counted]

theorem tryPush?_eq_push {limit : Nat} {item : α} {q : Backlog α} (h : q.size < limit) :
    q.tryPush? limit item = some (q.push item) := by
  simp [tryPush?, admit?, h, push, count]

theorem tryPush?_eq_none {limit : Nat} {item : α} {q : Backlog α} (h : limit ≤ q.size) :
    q.tryPush? limit item = none := by
  simp [tryPush?, admit?, Nat.not_lt.mpr h]

theorem items_pop? {q rest : Backlog α} {item : α} (h : q.pop? = some (item, rest)) :
    q.items = item :: rest.items := by
  obtain ⟨entries, size⟩ := q
  cases entries with
  | nil => simp [pop?, take?] at h
  | cons entry tail =>
      simp only [pop?, take?, Option.map_some, Option.some.injEq, Prod.mk.injEq] at h
      obtain ⟨rfl, rfl⟩ := h
      by_cases hc : entry.counted <;> simp [items, discount, hc]

theorem pop?_eq_none_iff {q : Backlog α} : q.pop? = none ↔ q.items = [] := by
  obtain ⟨entries, size⟩ := q
  cases entries <;> simp [pop?, take?, items]

theorem Exact.push {q : Backlog α} (h : q.Exact) (item : α) : (q.push item).Exact := by
  simp only [Exact, counted_push, List.length_append, List.length_singleton] at *
  simp [Backlog.push, Backlog.count, store, h]

theorem Exact.pop? {q rest : Backlog α} {item : α} (h : q.Exact)
    (hpop : q.pop? = some (item, rest)) : rest.Exact := by
  obtain ⟨entries, size⟩ := q
  cases entries with
  | nil => simp [Backlog.pop?, take?] at hpop
  | cons entry tail =>
      simp only [Backlog.pop?, take?, Option.map_some, Option.some.injEq, Prod.mk.injEq] at hpop
      obtain ⟨-, rfl⟩ := hpop
      by_cases hc : entry.counted <;> simp [Exact, counted, discount, hc] at h ⊢ <;> omega

end Backlog

end LogShipping
