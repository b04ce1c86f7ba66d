import MembershipGrid.Proofs.Lemmas.Objects

/-!
# The texts of reports

The report of a tally is the pretty form of an object with a member for each count, and the tally is read
back from it.
-/

namespace MembershipGrid

open Json

variable {fields : List (String × Nat)}

namespace Tally

theorem toList_reportLine (field : String × Nat) :
    (reportLine field).toList = memberLine field.1 (Nat.toDigits 10 field.2) := by
  simp [reportLine, memberLine, Nat.repr_eq_ofList_toDigits]

theorem memberLines_intercalate (nonempty : fields ≠ []) (keys : ∀ field ∈ fields, Verbatim field.1.toList) :
    MemberLines fields (",\n".intercalate (fields.map reportLine) ++ "\n\x7d").toList := by
  induction fields with
  | nil => exact absurd rfl nonempty
  | cons field rest ih =>
      have key := keys field List.mem_cons_self
      have line := toList_reportLine field
      cases rest with
      | nil =>
          have last := MemberLines.last key (plain_toDigits field.2)
          rw [← line] at last
          simpa [String.toList_intercalate] using last
      | cons next rest =>
          have lines := ih (List.cons_ne_nil _ _) fun other h => keys other (List.mem_cons_of_mem _ h)
          have more := MemberLines.more key (plain_toDigits field.2) lines
          rw [← line] at more
          simpa [String.toList_intercalate, List.intercalate_cons_cons] using more

theorem pretty_report (t : Tally) : Pretty t.fields t.report.toList := by
  have keys : ∀ field ∈ t.fields, Verbatim field.1.toList := by
    simp only [fields, List.forall_mem_cons]
    decide
  refine ⟨_, memberLines_intercalate (List.cons_ne_nil _ _) keys, ?_⟩
  simp [report]

/-- The tally that a report tells of. Each count is looked up under its key, and no key may come twice. -/
def ofReport? (text : String) : Option Tally := do
  let members ← object? text.toList
  guard (members.map Prod.fst).Nodup
  return {
    width := ← members.lookup "width"
    height := ← members.lookup "height"
    agreeMember := ← members.lookup "agree_member"
    agreeOutside := ← members.lookup "agree_outside"
    falseMember := ← members.lookup "false_member"
    falseOutside := ← members.lookup "false_outside"
    mismatched := ← members.lookup "mismatched" }

theorem ofReport?_report (t : Tally) : ofReport? t.report = some t := by
  rw [ofReport?, object?_of_pretty t.pretty_report]
  rfl

/-- A text tells of a tally as a report does: it is the pretty form of one object with the seven counts in
their order, and the tally is read back from it. -/
structure ReportedIn (t : Tally) (text : String) : Prop where
  pretty : Pretty
    [("width", t.width), ("height", t.height), ("agree_member", t.agreeMember),
      ("agree_outside", t.agreeOutside), ("false_member", t.falseMember),
      ("false_outside", t.falseOutside), ("mismatched", t.mismatched)] text.toList
  read : ofReport? text = some t

theorem reportedIn_report (t : Tally) : t.ReportedIn t.report := ⟨t.pretty_report, t.ofReport?_report⟩

theorem report_injective : Function.Injective report := by
  intro t u same
  have read := ofReport?_report t
  rw [same, ofReport?_report u] at read
  exact (Option.some.inj read).symm

end Tally

end MembershipGrid
