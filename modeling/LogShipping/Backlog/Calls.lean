import LogShipping.Backlog

/-!
A queue as its users see it: the calls they make, one after another, and what each of them answers.
A call is made through a handle. There can be any number of handles, and they all lead to the same
entries and the same counter.
-/

namespace LogShipping.Backlog

inductive Call (α : Type) where
  | push (item : α)
  | pushUncounted (item : α)
  | tryPush (limit : Nat) (item : α)
  /-- Takes the oldest item, and does not wait for one. -/
  | pop
  | readSize
  | readClear
  deriving DecidableEq

inductive Reply (α : Type) where
  | pushed
  /-- The item is given back. -/
  | rejected (item : α)
  | popped (item : α)
  | nothing
  | size (count : Nat)
  | clear (isClear : Bool)
  deriving DecidableEq

variable {α : Type}

def answer (call : Call α) (q : Backlog α) : Reply α × Backlog α :=
  match call with
  | .push item => (.pushed, q.push item)
  | .pushUncounted item => (.pushed, q.pushUncounted item)
  | .tryPush limit item =>
    match q.tryPush? limit item with
    | some q => (.pushed, q)
    | none => (.rejected item, q)
  | .pop =>
    match q.pop? with
    | some (item, q) => (.popped item, q)
    | none => (.nothing, q)
  | .readSize => (.size q.size, q)
  | .readClear => (.clear q.isClear, q)

theorem answer_of_room {limit : Nat} {q : Backlog α} (room : q.size < limit) (item : α) :
    q.answer (.tryPush limit item) = (.pushed, q.push item) := by
  simp [answer, tryPush?_eq_push room]

theorem answer_of_full {limit : Nat} {q : Backlog α} (full : limit ≤ q.size) (item : α) :
    q.answer (.tryPush limit item) = (.rejected item, q) := by
  simp [answer, tryPush?_eq_none full]

theorem answer_pop {q rest : Backlog α} {entry : Entry α} (h : q.take? = some (entry, rest)) :
    q.answer .pop = (.popped entry.item, rest.discount entry) := by
  simp [answer, pop?, h]

theorem answer_pop_nothing {q : Backlog α} (h : q.take? = none) :
    q.answer .pop = (.nothing, q) := by
  simp [answer, pop?, h]

def taken? (call : Call α) (q : Backlog α) : Option (Entry α) :=
  match call with
  | .pop => q.take?.map Prod.fst
  | _ => none

def Reply.popped? : Reply α → Option α
  | popped item => some item
  | _ => none

/-- A call that was made, the handle it was made through, and what came of it. -/
structure Event (α : Type) where
  handle : Nat
  call : Call α
  reply : Reply α
  taken : Option (Entry α)
  deriving DecidableEq

namespace Event

def of (turn : Nat × Call α) (q : Backlog α) : Event α :=
  ⟨turn.1, turn.2, (q.answer turn.2).1, q.taken? turn.2⟩

def turn (e : Event α) : Nat × Call α :=
  (e.handle, e.call)

/-- The entry that the call put in, as the caller knows it. -/
def entered? (e : Event α) : Option (Entry α) :=
  match e.call, e.reply with
  | .push item, _ => some ⟨item, true⟩
  | .pushUncounted item, _ => some ⟨item, false⟩
  | .tryPush _ item, .pushed => some ⟨item, true⟩
  | _, _ => none

/-- Whether the call put in an item without counting it, or took such an item out. -/
def isUncounted (e : Event α) : Bool :=
  match e.call with
  | .pushUncounted _ => true
  | .pop => e.taken.any fun entry => !entry.counted
  | _ => false

end Event

def history : List (Nat × Call α) → Backlog α → List (Event α)
  | [], _ => []
  | turn :: rest, q => .of turn q :: history rest (q.answer turn.2).2

def after : List (Nat × Call α) → Backlog α → Backlog α
  | [], q => q
  | turn :: rest, q => after rest (q.answer turn.2).2

end LogShipping.Backlog
