/-! Why a text is no document, and the wording of each reason. A fault is a reason
with the byte offset that it is reported at, in the text without its byte order
mark. -/
namespace MapTheme.Markup

inductive NumberFault where
  | empty
  | invalidDigit
  | tooLarge
deriving Repr, DecidableEq

inductive CharRefFault where
  | signed
  | number (fault : NumberFault)
  | zero
  | noCharacter (number : Nat)
deriving Repr, DecidableEq

/-- Faults in an attribute's value; offsets count bytes of the value. -/
inductive EntityFault where
  | unterminated (start stop : Nat)
  | unknown (start stop : Nat) (name : String)
  | reference (fault : CharRefFault)
deriving Repr, DecidableEq

/-- Faults in the attributes of a tag; offsets count bytes of the tag's content. -/
inductive AttributeFault where
  | expectedEquals (offset : Nat)
  | expectedValue (offset : Nat)
  | unquoted (offset : Nat)
  | unclosed (offset : Nat) (quote : Char)
  | duplicate (offset previous : Nat)
deriving Repr, DecidableEq

inductive Reason where
  | unknownSection
  | openData
  | openComment
  | openDoctype
  | namelessDoctype
  | openInstruction
  | openTag
  | mismatchedEnd (expected found : String)
  | strayEnd (found : String)
  | attributes (fault : AttributeFault)
  | entity (fault : EntityFault)
  | unbalancedEnd
  | unclosed (name : String)
  | noRoot
  | secondRoot (name : String)
deriving Repr, DecidableEq

structure Fault where
  position : Nat
  reason : Reason
deriving Repr, DecidableEq

def NumberFault.message : NumberFault → String
  | .empty => "cannot parse integer from empty string"
  | .invalidDigit => "invalid digit found in string"
  | .tooLarge => "number too large to fit in target type"

def code (text : String) : String := "\x60" ++ text ++ "\x60"

def CharRefFault.message : CharRefFault → String
  | .signed => "unexpected number sign"
  | .number fault => fault.message
  | .zero => "0x0 character is not permitted in XML"
  | .noCharacter value => code (toString value) ++ " is not a valid codepoint"

def range (start stop : Nat) : String := toString start ++ ".." ++ toString stop

def EntityFault.message : EntityFault → String
  | .unterminated start stop =>
    "Error while escaping character at range " ++ range start stop ++
      ": Cannot find ';' after '&'"
  | .unknown start stop name => "at " ++ range start stop ++ ": unrecognized entity " ++ code name
  | .reference fault => "invalid character reference: " ++ fault.message

def AttributeFault.message : AttributeFault → String
  | .expectedEquals p =>
    position p ++ "attribute key must be directly followed by " ++ code "=" ++ " or space"
  | .expectedValue p => position p ++ code "=" ++ " must be followed by an attribute value"
  | .unquoted p =>
    position p ++ "attribute value must be enclosed in " ++ code "\"" ++ " or " ++ code "'"
  | .unclosed p quote =>
    position p ++ "missing closing quote " ++ code (String.singleton quote) ++
      " in attribute value"
  | .duplicate p previous =>
    position p ++ "duplicated attribute, previous declaration at position " ++ toString previous
where
  position (p : Nat) : String := "position " ++ toString p ++ ": "

def openSection (what close : String) : String :=
  "syntax error: " ++ what ++ " not closed: " ++ code close ++ " not found before end of input"

def illFormed (what : String) : String := "ill-formed document: " ++ what

def Reason.message : Reason → String
  | .unknownSection => "syntax error: unknown or missed symbol in markup"
  | .openData => openSection "CDATA" "]]>"
  | .openComment => openSection "comment" "-->"
  | .openDoctype => openSection "DOCTYPE" ">"
  | .namelessDoctype =>
    illFormed (code "<!DOCTYPE>" ++ " declaration does not contain a name of a document type")
  | .openInstruction => openSection "processing instruction or xml declaration" "?>"
  | .openTag => openSection "tag" ">"
  | .mismatchedEnd expected found =>
    illFormed ("expected " ++ code ("</" ++ expected ++ ">") ++ ", but " ++
      code ("</" ++ found ++ ">") ++ " was found")
  | .strayEnd found =>
    illFormed ("close tag " ++ code ("</" ++ found ++ ">") ++ " does not match any open tag")
  | .attributes fault => fault.message
  | .entity fault => fault.message
  | .unbalancedEnd => "unbalanced end tag"
  | .unclosed name => "unclosed element <" ++ name ++ ">"
  | .noRoot => "document has no root element"
  | .secondRoot name => "second root element <" ++ name ++ ">"

def Fault.message (fault : Fault) : String :=
  "Theme document is malformed at byte " ++ toString fault.position ++ ": " ++ fault.reason.message

end MapTheme.Markup
