import MembershipGrid.Embedding
import MembershipGrid.Proofs.Lemmas.Comparisons

/-!
# Inputs that are refused

What can be wrong with lines that should be a grid, and with the files that a command reads. Each list is
complete: nothing else keeps an input from being accepted.
-/

namespace MembershipGrid

/-- What keeps lines from being the rows of a grid. -/
inductive Text.Malformed : List (List Char) → Prop
  | noRow : Malformed []
  | emptyRow {ls : List (List Char)} : [] ∈ ls → Malformed ls
  | ragged {ls : List (List Char)} {line other : List Char} :
      line ∈ ls → other ∈ ls → line.length ≠ other.length → Malformed ls
  | unknownSymbol {ls : List (List Char)} {line : List Char} {c : Char} :
      line ∈ ls → c ∈ line → c ≠ 'x' → c ≠ '.' → Malformed ls

namespace Disk

/-- Why no grid can be read from a file. -/
inductive NoGrid (d : Disk) (path : String) : Prop
  | unreadable {e : StorageError} : d.read path = .error e → NoGrid d path
  | notText {content : Bytes} : d.read path = .ok content → Text.decode? content = none → NoGrid d path
  | malformed {content : Bytes} {text : String} : d.read path = .ok content →
      Text.decode? content = some text → Text.Malformed (Text.lines text.toList) → NoGrid d path

/-- Why two files cannot be compared. -/
inductive NoComparison (d : Disk) (left right : String) : Prop
  | left : d.NoGrid left → NoComparison d left right
  | right : d.NoGrid right → NoComparison d left right
  | rows {g h : Grid} : Grid.onDisk d left = .ok g → Grid.onDisk d right = .ok h →
      g.height ≠ h.height → NoComparison d left right
  | columns {g h : Grid} : Grid.onDisk d left = .ok g → Grid.onDisk d right = .ok h →
      g.width ≠ h.width → NoComparison d left right

/-- Why a file cannot be embedded under a name. -/
inductive NoArray (d : Disk) (path symbol : String) : Prop
  | unreadable {e : StorageError} : d.read path = .error e → NoArray d path symbol
  | notIdentifier : Embedding.isIdentifier symbol = false → NoArray d path symbol

end Disk

variable {d e : Disk} {places : Set Location} {path left right symbol : String} {text : String}

/-! ## Each list is complete -/

theorem not_exists_ok_iff {ε α : Type} {x : Except ε α} : (¬∃ a, x = .ok a) ↔ ∃ e, x = .error e := by
  cases x <;> simp

theorem Text.malformed_iff {ls : List (List Char)} :
    Malformed ls ↔ ¬(ls ≠ [] ∧ ∃ width, 0 < width ∧
      ∀ line ∈ ls, line.length = width ∧ ∀ c ∈ line, c = 'x' ∨ c = '.') := by
  constructor
  · rintro defect ⟨hne, width, hpos, hl⟩
    cases defect with
    | noRow => exact hne rfl
    | emptyRow h => exact absurd (hl _ h).1 (Nat.ne_of_lt hpos)
    | ragged h h' uneven => exact uneven ((hl _ h).1.trans (hl _ h').1.symm)
    | unknownSymbol h hc hx hd => exact ((hl _ h).2 _ hc).elim hx hd
  · intro h
    cases ls with
    | nil => exact .noRow
    | cons first rest =>
        by_contra sound
        refine h ⟨List.cons_ne_nil _ _, first.length, ?_, fun line hl => ⟨?_, fun c hc => ?_⟩⟩
        · refine Nat.pos_of_ne_zero fun empty => sound (.emptyRow ?_)
          rw [← List.length_eq_zero_iff.mp empty]
          exact List.mem_cons_self
        · by_contra uneven
          exact sound (.ragged hl List.mem_cons_self uneven)
        · by_contra unknown
          exact sound (.unknownSymbol hl hc (fun hx => unknown (Or.inl hx)) fun hd => unknown (Or.inr hd))

namespace Disk

theorem noGrid_iff : d.NoGrid path ↔ ¬∃ g, Grid.onDisk d path = .ok g := by
  constructor
  · rintro bad ⟨g, hg⟩
    obtain ⟨text, ht, hg⟩ := Grid.onDisk_eq_ok_iff.mp hg
    obtain ⟨content, hr, hd⟩ := text_eq_ok_iff.mp ht
    cases bad with
    | unreadable h =>
        rw [hr] at h
        cases h
    | notText h hn =>
        rw [hr] at h
        cases h
        rw [hd] at hn
        cases hn
    | malformed h hd' defect =>
        rw [hr] at h
        cases h
        rw [hd] at hd'
        cases hd'
        exact Text.malformed_iff.mp defect (Grid.exists_ofText_iff.mp ⟨g, hg⟩)
  · intro refused
    cases hr : d.read path with
    | error e => exact .unreadable hr
    | ok content =>
        cases hd : Text.decode? content with
        | none => exact .notText hr hd
        | some text =>
            refine .malformed hr hd (Text.malformed_iff.mpr fun accepted => refused ?_)
            obtain ⟨g, hg⟩ := Grid.exists_ofText_iff.mpr accepted
            exact ⟨g, (Grid.onDisk_eq_ok_iff_of_read hr).mpr ⟨text, hd, hg⟩⟩

theorem noComparison_iff : d.NoComparison left right ↔ ¬∃ c, Comparison.onDisk d left right = .ok c := by
  simp only [Comparison.onDisk_eq_ok_iff]
  constructor
  · rintro bad ⟨c, g, h, hg, hh, hc⟩
    obtain ⟨height, width⟩ := Comparison.exists_ofGrids_iff.mp ⟨c, hc⟩
    cases bad with
    | left bad => exact noGrid_iff.mp bad ⟨g, hg⟩
    | right bad => exact noGrid_iff.mp bad ⟨h, hh⟩
    | rows hg' hh' differ =>
        cases hg.symm.trans hg'
        cases hh.symm.trans hh'
        exact differ height
    | columns hg' hh' differ =>
        cases hg.symm.trans hg'
        cases hh.symm.trans hh'
        exact differ width
  · intro refused
    by_cases hl : d.NoGrid left
    · exact .left hl
    by_cases hr : d.NoGrid right
    · exact .right hr
    obtain ⟨g, hg⟩ := not_not.mp (mt noGrid_iff.mpr hl)
    obtain ⟨h, hh⟩ := not_not.mp (mt noGrid_iff.mpr hr)
    by_cases height : g.height = h.height
    · refine .columns hg hh fun width => refused ?_
      obtain ⟨c, hc⟩ := Comparison.exists_ofGrids_iff.mpr ⟨height, width⟩
      exact ⟨c, g, h, hg, hh, hc⟩
    · exact .rows hg hh height

theorem noArray_iff :
    d.NoArray path symbol ↔
      ¬((∃ content, d.read path = .ok content) ∧ Embedding.isIdentifier symbol = true) := by
  constructor
  · rintro bad ⟨⟨content, hr⟩, hs⟩
    cases bad with
    | unreadable h =>
        rw [hr] at h
        cases h
    | notIdentifier h =>
        rw [hs] at h
        cases h
  · intro refused
    cases hr : d.read path with
    | error e => exact .unreadable hr
    | ok content => exact .notIdentifier (Bool.eq_false_iff.mpr fun hs => refused ⟨⟨content, hr⟩, hs⟩)

/-! ## Changes elsewhere make no difference -/

namespace ChangedAt

theorem noGrid_iff (h : ChangedAt places d e) (apart : ∀ place ∈ places, d.locate path ≠ .ok place) :
    e.NoGrid path ↔ d.NoGrid path := by
  simp only [Disk.noGrid_iff, h.onDisk_grid_iff apart]

theorem noComparison_iff (h : ChangedAt places d e)
    (apart_left : ∀ place ∈ places, d.locate left ≠ .ok place)
    (apart_right : ∀ place ∈ places, d.locate right ≠ .ok place) :
    e.NoComparison left right ↔ d.NoComparison left right := by
  simp only [Disk.noComparison_iff, h.onDisk_comparison_iff apart_left apart_right]

theorem noArray_iff (h : ChangedAt places d e) (apart : ∀ place ∈ places, d.locate path ≠ .ok place) :
    e.NoArray path symbol ↔ d.NoArray path symbol := by
  simp only [Disk.noArray_iff, h.read_eq_ok_iff apart]

end ChangedAt

end Disk

end MembershipGrid
