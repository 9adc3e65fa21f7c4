/-! Fonts of labels. Their words are read in letters of either case. -/
namespace MapTheme

inductive FontFamily where
  | default
  | monospace
  | sansSerif
  | serif
deriving Repr, DecidableEq

namespace FontFamily

def text : FontFamily → String
  | .default => "default"
  | .monospace => "monospace"
  | .sansSerif => "sans_serif"
  | .serif => "serif"

def read? (text : String) : Option FontFamily :=
  match text.toLower with
  | "default" => some .default
  | "monospace" => some .monospace
  | "sans_serif" => some .sansSerif
  | "serif" => some .serif
  | _ => none

end FontFamily

inductive FontStyle where
  | normal
  | bold
  | italic
  | boldItalic
deriving Repr, DecidableEq

namespace FontStyle

def text : FontStyle → String
  | .normal => "normal"
  | .bold => "bold"
  | .italic => "italic"
  | .boldItalic => "bold_italic"

def read? (text : String) : Option FontStyle :=
  match text.toLower with
  | "normal" => some .normal
  | "bold" => some .bold
  | "italic" => some .italic
  | "bold_italic" => some .boldItalic
  | _ => none

end FontStyle

structure Font where
  family : FontFamily := .default
  style : FontStyle := .normal
  size : Float

def Font.defaultSize : Float := 10.0

end MapTheme
