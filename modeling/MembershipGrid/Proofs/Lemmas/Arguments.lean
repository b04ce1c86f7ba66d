import MembershipGrid.CommandLine.Command
import Mathlib.Data.List.Basic

/-!
# Arguments that are not read to the end

Reading arguments ends early for a request or for a refusal. The number of files is looked at only when all
arguments have been read, and only if none of them is the name of a command.
-/

namespace MembershipGrid.CommandLine

variable {α β : Type}

/-- Reading that does not end for the number of files. -/
def Uncounted (outcome : Except Stop α) : Prop := outcome ≠ .error .wrongCount

/-- Files without the name of a command, and not three of them. -/
def Miscounted (arguments : List String) : Prop :=
  ∃ r, (Reading.start .program).takeAll arguments = .ok (r, none) ∧ (r.values .files).length ≠ 3

theorem Uncounted.ok (a : α) : Uncounted (.ok a : Except Stop α) := nofun

theorem Uncounted.bind {outcome : Except Stop α} {next : α → Except Stop β} (h : Uncounted outcome)
    (hn : ∀ a, Uncounted (next a)) : Uncounted (outcome >>= next) := by
  cases outcome with
  | error stop =>
      intro same
      cases same
      exact h rfl
  | ok a => exact hn a

/-! ## Single arguments -/

namespace Reading

theorem uncounted_accept (r : Reading) (p : Parameter) (values : List String) :
    Uncounted (r.accept p values) := by
  rw [accept]
  split_ifs <;> nofun

theorem uncounted_settle (r : Reading) : Uncounted r.settle := by
  rw [settle]
  split
  · nofun
  · exact uncounted_accept _ _ _

theorem uncounted_stop (r : Reading) {request : Stop} (h : request ≠ .wrongCount) :
    Uncounted (r.stop request) :=
  (uncounted_settle r).bind fun _ same => h (Except.error.inj same)

theorem uncounted_takeOption (r : Reading) (p : Parameter) (attached : Option String) :
    Uncounted (r.takeOption p attached) := by
  refine (uncounted_settle r).bind fun settled => ?_
  cases attached with
  | none => nofun
  | some value => exact uncounted_accept _ _ _

theorem uncounted_takeLong (r : Reading) (body : List Char) : Uncounted (r.takeLong body) := by
  rw [takeLong]
  split
  · nofun
  · exact uncounted_takeOption _ _ _
  · exact uncounted_stop _ nofun
  · exact uncounted_stop _ nofun
  · nofun

theorem uncounted_takeShort (r : Reading) (letter : Char) (rest : List Char) :
    Uncounted (r.takeShort letter rest) := by
  rw [takeShort]
  split
  · nofun
  · split <;> exact uncounted_takeOption _ _ _
  · exact uncounted_stop _ nofun
  · exact uncounted_stop _ nofun

theorem uncounted_openWith (r : Reading) (p : Parameter) (argument : String) (mode : Mode) :
    Uncounted (r.openWith p argument mode) :=
  (uncounted_settle r).bind fun _ => .ok _

theorem uncounted_takePlace (r : Reading) (argument : String) : Uncounted (r.takePlace argument) := by
  rw [takePlace]
  split
  · nofun
  · split_ifs
    · nofun
    · exact uncounted_openWith _ _ _ _
    · exact uncounted_openWith _ _ _ _

theorem uncounted_take (r : Reading) (argument : String) : Uncounted (r.take argument) := by
  rw [take]
  split
  · exact uncounted_takePlace _ _
  · split
    · nofun
    · exact uncounted_takeLong _ _
    · exact uncounted_takeShort _ _ _
    · split_ifs
      · nofun
      · exact uncounted_takePlace _ _

theorem helpOn_ne_wrongCount (topics : List String) : helpOn topics ≠ .wrongCount := by
  unfold helpOn
  split
  · nofun
  · split
    · nofun
    · nofun
    · split_ifs
      · split <;> nofun
      · nofun

/-! ## All arguments -/

theorem uncounted_takeAll (r : Reading) (arguments : List String) : Uncounted (r.takeAll arguments) := by
  induction arguments generalizing r with
  | nil => exact (uncounted_settle r).bind fun _ => .ok _
  | cons argument rest ih =>
      have later := (uncounted_take r argument).bind fun next => ih next
      rw [takeAll]
      split
      · split
        · nofun
        · split
          · exact fun same => helpOn_ne_wrongCount rest (Except.error.inj same)
          · exact later
      · exact later

end Reading

theorem uncounted_readCommand (verb : Verb) (arguments : List String) :
    Uncounted (readCommand verb arguments) := by
  refine (Reading.uncounted_takeAll _ _).bind fun ⟨r, _⟩ => ?_
  cases command : r.command? verb <;> simp only [command] <;> nofun

/-- The number of files is complained about exactly when it is not three and no command is named. -/
theorem read_eq_wrongCount_iff {arguments : List String} :
    read arguments = .error .wrongCount ↔ Miscounted arguments := by
  rw [read]
  cases taken : (Reading.start .program).takeAll arguments with
  | error stop =>
      have uncounted := Reading.uncounted_takeAll (.start .program) arguments
      rw [taken] at uncounted
      constructor
      · intro h
        have same : (.error stop : Except Stop Invocation) = .error .wrongCount := h
        cases same
        exact absurd rfl uncounted
      · rintro ⟨r, h, -⟩
        cases taken.symm.trans h
  | ok found =>
      obtain ⟨r, verb⟩ := found
      cases verb with
      | some named =>
          obtain ⟨verb, rest⟩ := named
          have uncounted := (uncounted_readCommand verb rest).bind fun inner =>
            (Reading.uncounted_settle r).bind fun r =>
              Uncounted.ok { inner with config := inner.config <|> r.value? .config }
          constructor
          · intro h
            exact absurd h uncounted
          · rintro ⟨r, h, -⟩
            cases taken.symm.trans h
      | none =>
          have shape : Miscounted arguments ↔ (r.values .files).length ≠ 3 := by
            constructor
            · rintro ⟨r', h, count⟩
              cases taken.symm.trans h
              exact count
            · exact fun count => ⟨r, taken, count⟩
          rw [shape]
          dsimp only [bind, Except.bind]
          split
          · rename_i three
            rw [three]
            exact iff_of_false nofun fun count => count rfl
          · rename_i other
            refine iff_of_true rfl fun count => ?_
            obtain ⟨left, right, output, three⟩ := List.length_eq_three.mp count
            exact other left right output three

end MembershipGrid.CommandLine
