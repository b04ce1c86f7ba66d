/-!
# Control functions

A text can hold more than what is to be shown: control characters, and control functions that begin
with the escape character and go on for some bytes. What is left without them (`shown`) holds
characters of text only (`isText_of_mem_shown`), and nothing else is taken away
(`shown_eq_self`).
-/

namespace MembershipGrid.Text.Control

/-- Whether a character sets the layout of a text: a tab, or the end of a line or page. -/
def isLayout (c : Char) : Bool := c == '\t' || c == '\n' || c == '\x0c' || c == '\r'

def isText (c : Char) : Bool := isLayout c || (0x20 ≤ c.toNat && c != '\x7f')

inductive Mode where
  /-- A part of the text itself. -/
  | text
  /-- What follows the escape character. -/
  | escape
  /-- What follows the first byte of an escape sequence that has more than one. -/
  | escapeRest
  /-- A part of a control sequence. -/
  | sequence
  /-- What follows the introducer of a device control string. -/
  | device
  /-- What follows a parameter of a device control string. -/
  | deviceParameters
  /-- What follows the parameters of a device control string. -/
  | deviceRest
  /-- A part of a string for a device, or of one that is passed over. -/
  | string
  /-- A part of a command to the operating system. -/
  | command
  deriving DecidableEq

namespace Mode

/-- What comes after a byte that neither cancels a control function nor begins one. -/
def next (b : UInt8) : Mode → Mode
  | .text => .text
  | .escape =>
    if b = 0x50 then .device
    else if b = 0x5b then .sequence
    else if b = 0x5d then .command
    else if b = 0x58 ∨ b = 0x5e ∨ b = 0x5f then .string
    else if 0x20 ≤ b ∧ b ≤ 0x2f then .escapeRest
    else if 0x30 ≤ b ∧ b ≤ 0x7e then .text
    else .escape
  | .escapeRest => if 0x30 ≤ b ∧ b ≤ 0x7e then .text else .escapeRest
  | .sequence => if 0x40 ≤ b ∧ b ≤ 0x7e then .text else .sequence
  | .device =>
    if 0x20 ≤ b ∧ b ≤ 0x2f then .deviceRest
    else if 0x30 ≤ b ∧ b ≤ 0x3f then .deviceParameters
    else if 0x40 ≤ b ∧ b ≤ 0x7e then .string
    else .device
  | .deviceParameters =>
    if 0x20 ≤ b ∧ b ≤ 0x2f then .deviceRest
    else if 0x3c ≤ b ∧ b ≤ 0x7e then .string
    else .deviceParameters
  | .deviceRest => if 0x30 ≤ b ∧ b ≤ 0x7e then .string else .deviceRest
  | .string => if b = 0x9c then .text else .string
  | .command => if b = 0x07 then .text else .command

/-- What comes after a byte. Two bytes cancel any control function, and the escape character begins
one anywhere. -/
def step (m : Mode) (b : UInt8) : Mode :=
  if b = 0x18 ∨ b = 0x1a then .text
  else if b = 0x1b then .escape
  else m.next b

/-- Whether a character is shown. The layout breaks off sequences, but not strings. -/
def shows (c : Char) : Mode → Bool
  | .text => isText c
  | .escape | .escapeRest | .sequence => isLayout c
  | .device | .deviceParameters | .deviceRest | .string | .command => false

end Mode

def shownFrom : Mode → List Char → List Char
  | _, [] => []
  | m, c :: rest =>
    if m.shows c then c :: shownFrom .text rest
    else shownFrom ((String.utf8EncodeChar c).foldl Mode.step m) rest

def shown (text : String) : String := String.ofList (shownFrom .text text.toList)

theorem isText_of_shows {m : Mode} {c : Char} (h : m.shows c) : isText c := by
  cases m <;> simp_all [Mode.shows, isText]

theorem isText_of_mem_shownFrom {m : Mode} {c : Char} {text : List Char}
    (h : c ∈ shownFrom m text) : isText c := by
  induction text generalizing m with
  | nil => simp [shownFrom] at h
  | cons first rest ih =>
    simp only [shownFrom] at h
    split at h
    case isTrue shows =>
      rcases List.mem_cons.mp h with rfl | later
      · exact isText_of_shows shows
      · exact ih later
    case isFalse => exact ih h

theorem isText_of_mem_shown {c : Char} {text : String} (h : c ∈ (shown text).toList) :
    isText c := by
  rw [shown, String.toList_ofList] at h
  exact isText_of_mem_shownFrom h

theorem shownFrom_eq_self {text : List Char} (h : ∀ c ∈ text, isText c) :
    shownFrom .text text = text := by
  induction text with
  | nil => rfl
  | cons first rest ih =>
    have begins : Mode.text.shows first := h first List.mem_cons_self
    rw [shownFrom, if_pos begins, ih fun c inside => h c (List.mem_cons_of_mem first inside)]

theorem shown_eq_self {text : String} (h : ∀ c ∈ text.toList, isText c) : shown text = text := by
  rw [shown, shownFrom_eq_self h, String.ofList_toList]

end MembershipGrid.Text.Control
