/-!
# Symbols

A cell of a grid says whether its point belongs to the set. It is written as one character.
-/

namespace MembershipGrid

inductive Symbol where
  | member
  | outside
  deriving DecidableEq

namespace Symbol

def toChar : Symbol → Char
  | .member => 'x'
  | .outside => '.'

def ofChar? (c : Char) : Option Symbol :=
  if c = 'x' then some .member
  else if c = '.' then some .outside
  else none

theorem ofChar?_eq_some_iff {c : Char} {s : Symbol} : ofChar? c = some s ↔ c = s.toChar := by
  cases s <;> grind [ofChar?, toChar]

end Symbol

end MembershipGrid
