namespace LogShipping.Text

def utf8 (text : String) : List UInt8 :=
  text.toList.flatMap String.utf8EncodeChar

@[simp] theorem utf8_append (a b : String) : utf8 (a ++ b) = utf8 a ++ utf8 b := by
  simp [utf8]

/-- For the first byte of a longer character: the smallest and the largest second byte, and how many
bytes follow that one. -/
def leadByte? (b : UInt8) : Option (UInt8 × UInt8 × Nat) :=
  if 0xc2 ≤ b ∧ b ≤ 0xdf then some (0x80, 0xbf, 0)
  else if b = 0xe0 then some (0xa0, 0xbf, 1)
  else if b = 0xed then some (0x80, 0x9f, 1)
  else if 0xe1 ≤ b ∧ b ≤ 0xef then some (0x80, 0xbf, 1)
  else if b = 0xf0 then some (0x90, 0xbf, 2)
  else if 0xf1 ≤ b ∧ b ≤ 0xf3 then some (0x80, 0xbf, 2)
  else if b = 0xf4 then some (0x80, 0x8f, 2)
  else none

/-- What has been read of a character, and what may come next. -/
inductive Pending where
  | none
  | some (value : Nat) (low high : UInt8) (more : Nat)

def replacement : Char := '\ufffd'

/-- Reads the bytes one by one. A byte that cannot go on with the character begun gives a
replacement character for what was read of it, and is then read as a first byte. -/
def decodeFrom : Pending → List UInt8 → List Char
  | .none, [] => []
  | .some .., [] => [replacement]
  | .none, b :: rest =>
    if b < 0x80 then Char.ofNat b.toNat :: decodeFrom .none rest
    else match leadByte? b with
      | .none => replacement :: decodeFrom .none rest
      | .some (low, high, more) =>
        decodeFrom (.some (b.toNat % (32 >>> more)) low high more) rest
  | .some value low high more, b :: rest =>
    if low ≤ b ∧ b ≤ high then
      let value := 64 * value + b.toNat % 64
      match more with
      | 0 => Char.ofNat value :: decodeFrom .none rest
      | more + 1 => decodeFrom (.some value 0x80 0xbf more) rest
    else replacement :: (if b < 0x80 then Char.ofNat b.toNat :: decodeFrom .none rest
      else match leadByte? b with
        | .none => replacement :: decodeFrom .none rest
        | .some (low, high, more) =>
          decodeFrom (.some (b.toNat % (32 >>> more)) low high more) rest)

/-- The text of bytes, with a replacement character for every piece that is no character. -/
def ofUtf8 (bytes : List UInt8) : String :=
  String.ofList (decodeFrom .none bytes)

end LogShipping.Text
