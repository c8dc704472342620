import LogShipping.Numeric.NumberText

namespace LogShipping

namespace Json

inductive Scalar where
  | text (value : String)
  | whole (value : Int)
  | real (value : Binary64)
  deriving DecidableEq

abbrev Document := List (String × Scalar)

/-- Puts a member at its place in the order of the keys, over one of the same key. -/
def Document.put (key : String) (value : Scalar) : Document → Document
  | [] => [(key, value)]
  | (k, v) :: rest =>
    if key = k then (key, value) :: rest
    else if key < k then (key, value) :: (k, v) :: rest
    else (k, v) :: put key value rest

def Document.get? (key : String) : Document → Option Scalar
  | [] => none
  | (k, v) :: rest => if key = k then some v else get? key rest

@[simp] theorem Document.get?_put_self (key : String) (value : Scalar) (d : Document) :
    (d.put key value).get? key = some value := by
  induction d with
  | nil => simp [put, get?]
  | cons entry rest ih =>
      obtain ⟨k, v⟩ := entry
      by_cases hk : key = k
      · simp [put, get?, hk]
      · by_cases hlt : key < k <;> simp [put, get?, hk, hlt, ih]

theorem Document.get?_put_ne {key other : String} (hne : other ≠ key) (value : Scalar)
    (d : Document) : (d.put key value).get? other = d.get? other := by
  induction d with
  | nil => simp [put, get?, hne]
  | cons entry rest ih =>
      obtain ⟨k, v⟩ := entry
      grind [put, get?]

def hexDigit (n : Nat) : Char :=
  if n < 10 then Char.ofNat ('0'.toNat + n) else Char.ofNat ('a'.toNat + (n - 10))

/-- Quotes, backslashes and the characters below the blank are escaped, the last by a short escape
where there is one. Everything else stands for itself. -/
def escape (c : Char) : List Char :=
  if c = '"' then ['\\', '"']
  else if c = '\\' then ['\\', '\\']
  else if c = '\x08' then ['\\', 'b']
  else if c = '\x0c' then ['\\', 'f']
  else if c = '\n' then ['\\', 'n']
  else if c = '\r' then ['\\', 'r']
  else if c = '\t' then ['\\', 't']
  else if c.toNat < 0x20 then
    ['\\', 'u', '0', '0', hexDigit (c.toNat / 16), hexDigit (c.toNat % 16)]
  else [c]

def quote (s : String) : List Char :=
  '"' :: s.toList.flatMap escape ++ ['"']

def Scalar.render : Scalar → List Char
  | text s => quote s
  | whole n => signedDigits n
  | real x =>
    match NumberStyle.document.finite? x with
    | some digits => digits
    | none => quote x.specialText

def renderMember (member : String × Scalar) : List Char :=
  quote member.1 ++ ':' :: member.2.render

def renderMembers : Document → List Char
  | [] => []
  | [member] => renderMember member
  | member :: rest => renderMember member ++ ',' :: renderMembers rest

def Document.render (d : Document) : List Char :=
  '\x7b' :: renderMembers d ++ ['\x7d']

end Json

end LogShipping
