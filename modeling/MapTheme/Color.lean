import MapTheme.Text.Blank
import MapTheme.Text.Hex

/-! Colors with an alpha channel. The text of an opaque color has six digits; that
of any other one has the alpha channel in front. -/
namespace MapTheme

structure Color where
  red : UInt8
  green : UInt8
  blue : UInt8
  alpha : UInt8 := 255
deriving Repr, DecidableEq

namespace Color

def black : Color := ⟨0, 0, 0, 255⟩

def isTransparent (c : Color) : Bool := c.alpha = 0

def channel (x : UInt8) : List Char := Text.hexText 2 x.toNat

def digits (c : Color) : List Char :=
  (if c.alpha = 255 then [] else channel c.alpha) ++ channel c.red ++ channel c.green ++
    channel c.blue

def text (c : Color) : String := String.ofList ('#' :: c.digits)

/-- The byte of a number above so many binary digits. -/
def byteAt (n shift : Nat) : UInt8 := UInt8.ofNat (n >>> shift)

/-- Reads six digits, or eight with the alpha channel in front, after a number sign.
White space around them does not count. -/
def read? (text : String) : Option Color :=
  match Text.trim text.toList with
  | '#' :: ds =>
    if ds.all Text.isHex then
      let n := Text.hexNumber ds
      if ds.length = 6 then some ⟨byteAt n 16, byteAt n 8, byteAt n 0, 255⟩
      else if ds.length = 8 then some ⟨byteAt n 16, byteAt n 8, byteAt n 0, byteAt n 24⟩
      else none
    else none
  | _ => none

end Color
end MapTheme
