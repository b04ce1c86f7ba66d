import MembershipGrid.Text.Printable
import MembershipGrid.Text.Extending

/-!
# Quoted texts

A text or a character shown inside a message stands in quotes. The quote itself, the backslash and
what cannot be seen are escaped.
-/

namespace MembershipGrid.Text

def isPlain (c : Char) : Bool := isPrintable c && !isExtending c

def escape (quote c : Char) : List Char :=
  if c = '\x00' then ['\\', '0']
  else if c = '\t' then ['\\', 't']
  else if c = '\r' then ['\\', 'r']
  else if c = '\n' then ['\\', 'n']
  else if c = quote ∨ c = '\\' then ['\\', c]
  else if isPlain c then [c]
  else ['\\', 'u', '\x7b'] ++ Nat.toDigits 16 c.toNat ++ ['\x7d']

def quoted (text : String) : String :=
  String.ofList ('\x22' :: text.toList.flatMap (escape '\x22') ++ ['\x22'])

def quotedChar (c : Char) : String :=
  String.ofList ('\x27' :: escape '\x27' c ++ ['\x27'])

end MembershipGrid.Text
