/-! Bytes as text whatever they hold. Bytes that begin a character but do not go on
as one are replaced by one sign for what has been begun, and a byte that begins no
character is replaced on its own. -/
namespace MapTheme.Text

/-- How many bytes follow the first byte of a character, and the range of the first
of them. -/
def leadRange? (lead : UInt8) : Option (Nat × UInt8 × UInt8) :=
  if lead < 0x80 then some (0, 0, 0)
  else if 0xC2 ≤ lead ∧ lead ≤ 0xDF then some (1, 0x80, 0xBF)
  else if lead = 0xE0 then some (2, 0xA0, 0xBF)
  else if lead = 0xED then some (2, 0x80, 0x9F)
  else if 0xE1 ≤ lead ∧ lead ≤ 0xEF then some (2, 0x80, 0xBF)
  else if lead = 0xF0 then some (3, 0x90, 0xBF)
  else if 0xF1 ≤ lead ∧ lead ≤ 0xF3 then some (3, 0x80, 0xBF)
  else if lead = 0xF4 then some (3, 0x80, 0x8F)
  else none

/-- The bytes, at most `count`, that go on with a character: the first of them in a
range of its own, the others in that of all continuations. -/
def continuation (count : Nat) (least greatest : UInt8) (bytes : List UInt8) : List UInt8 :=
  match bytes.take count with
  | [] => []
  | b :: bs =>
    if least ≤ b ∧ b ≤ greatest then b :: bs.takeWhile (fun b => 0x80 ≤ b && b ≤ 0xBF) else []

def replacement : Char := '\ufffd'

def sequenceChar (lead : UInt8) (tail : List UInt8) : Char :=
  let bits : Nat := match tail.length with
    | 0 => lead.toNat
    | 1 => lead.toNat % 32
    | 2 => lead.toNat % 16
    | _ => lead.toNat % 8
  Char.ofNat (tail.foldl (fun n b => 64 * n + b.toNat % 64) bits)

def decodeLossy : List UInt8 → List Char
  | [] => []
  | lead :: bytes =>
    match leadRange? lead with
    | none => replacement :: decodeLossy bytes
    | some (count, least, greatest) =>
      let tail := continuation count least greatest bytes
      (if tail.length = count then sequenceChar lead tail else replacement) ::
        decodeLossy (bytes.drop tail.length)
termination_by bytes => bytes.length

end MapTheme.Text
