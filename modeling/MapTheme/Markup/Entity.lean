import MapTheme.Markup.Tag
import MapTheme.Text.Hex

/-! Character references and the five named entities in attribute values. -/
namespace MapTheme.Markup

def entities : List (List Char × Char) :=
  [(['l', 't'], '<'), (['g', 't'], '>'), (['a', 'm', 'p'], '&'), (['a', 'p', 'o', 's'], '\''),
   (['q', 'u', 'o', 't'], '"')]

def digitValue? (base : Nat) (c : Char) : Option Nat := (Text.hexValue? c).filter (· < base)

def readDigits (base value : Nat) : List Char → Except NumberFault Nat
  | [] => .ok value
  | c :: cs =>
    match digitValue? base c with
    | none => .error .invalidDigit
    | some d =>
      if value * base + d < 0x100000000 then readDigits base (value * base + d) cs
      else .error .tooLarge

def readNumber (base : Nat) : List Char → Except CharRefFault Nat
  | [] => .error (.number .empty)
  | c :: cs =>
    if c = '+' ∨ c = '-' then .error .signed
    else (readDigits base 0 (c :: cs)).mapError .number

/-- The character that the text between `&#` and `;` refers to. -/
def characterOf (cs : List Char) : Except CharRefFault Char := do
  let number ← match cs with
    | 'x' :: digits => readNumber 16 digits
    | digits => readNumber 10 digits
  if number = 0 then .error .zero
  else if number.isValidChar then .ok (Char.ofNat number)
  else .error (.noCharacter number)

def isMark (c : Char) : Bool := c = '&' || c = ';'

/-- Replaces references in the rest of a value that is `total` bytes long. -/
def unescape (total : Nat) : List Char → Except EntityFault (List Char)
  | [] => .ok []
  | c :: cs =>
    if c = '&' then
      let name := cs.takeWhile (!isMark ·)
      match _h : cs.dropWhile (!isMark ·) with
      | ';' :: tail => do
        let char ← match name with
          | '#' :: digits => (characterOf digits).mapError .reference
          | _ =>
            match entities.lookup name with
            | some char => .ok char
            | none =>
              .error (.unknown (total - width cs) (total - width cs + width name)
                (String.ofList name))
        let rest ← unescape total tail
        .ok (char :: rest)
      | _ => .error (.unterminated (total - width (c :: cs)) total)
    else do
      let rest ← unescape total cs
      .ok (c :: rest)
termination_by cs => cs.length
decreasing_by
  · have suffix := (List.dropWhile_suffix (l := cs) (fun c => !isMark c)).length_le
    simp only [_h, List.length_cons] at suffix
    simp only [List.length_cons]
    omega
  · simp

end MapTheme.Markup
