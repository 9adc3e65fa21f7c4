import MapTheme.Text.Unseen

/-! Text in quotes for messages: the quotes themselves, backslashes and all characters
that would not be seen are escaped, so that a message stays on one line. -/
namespace MapTheme.Text

def quotedChar (c : Char) : List Char :=
  match c with
  | '\x00' => ['\\', '0']
  | '\t' => ['\\', 't']
  | '\n' => ['\\', 'n']
  | '\r' => ['\\', 'r']
  | '\\' | '"' => ['\\', c]
  | _ =>
    if isUnseen c then ['\\', 'u', '\x7b'] ++ Nat.toDigits 16 c.toNat ++ ['\x7d'] else [c]

def quoted (text : String) : String :=
  String.ofList ('"' :: text.toList.flatMap quotedChar ++ ['"'])

end MapTheme.Text
