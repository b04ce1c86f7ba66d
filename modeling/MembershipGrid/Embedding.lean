import MembershipGrid.Text.Utf8

/-!
# Bytes as source text

A file can be embedded into a C program as the definition of a character array. The array ends in a
zero byte, so that it can be used as a string.
-/

namespace MembershipGrid.Embedding

def isIdentifierStart (c : Char) : Bool := c == '_' || c.isAlpha

def isIdentifierPart (c : Char) : Bool := c == '_' || c.isAlphanum

def isIdentifier (name : String) : Bool :=
  match name.toList with
  | [] => false
  | c :: rest => isIdentifierStart c && rest.all isIdentifierPart

/-- The shortest hexadecimal numeral of a byte, in lower case. -/
def numeral (byte : UInt8) : List Char := '0' :: 'x' :: Nat.toDigits 16 byte.toNat

/-- The definition of an array with the given bytes and a zero byte. -/
def arrayDefinition (name : String) (bytes : Bytes) : String :=
  "char " ++ name ++ "[] = \x7b" ++
    String.ofList (bytes.flatMap fun byte => numeral byte ++ [',', ' ']) ++ "0x00\x7d;\n"

def arrayDefinition? (name : String) (bytes : Bytes) : Option String :=
  if isIdentifier name then some (arrayDefinition name bytes) else none

end MembershipGrid.Embedding
