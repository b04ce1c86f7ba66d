import MembershipGrid.Proofs.ArrayTexts

/-!
# Names of arrays

A program can declare an array only by a name that the language leaves free. Some words are spelt like any
other name and are not free. They are taken for names of arrays too, and of all the names that are taken they
are the only ones that cannot be declared.
-/

namespace MembershipGrid.Embedding

/-- The words that the language keeps for itself. -/
def keywords : List String :=
  ["auto", "break", "case", "char", "const", "continue", "default", "do", "double", "else", "enum", "extern",
    "float", "for", "goto", "if", "inline", "int", "long", "register", "restrict", "return", "short", "signed",
    "sizeof", "static", "struct", "switch", "typedef", "union", "unsigned", "void", "volatile", "while",
    "_Alignas", "_Alignof", "_Atomic", "_Bool", "_Complex", "_Generic", "_Imaginary", "_Noreturn",
    "_Static_assert", "_Thread_local"]

/-- A name that a program can declare. -/
structure Declarable (name : String) : Prop where
  identifier : Identifier name.toList
  free : name ∉ keywords

/-- The name in the text of an array, which starts after the type and ends at the bracket. -/
def declaredName (text : String) : String :=
  String.ofList ((text.toList.drop "char ".length).takeWhile isIdentifierPart)

variable {name text : String} {bytes : Bytes}

theorem declarable_iff : Declarable name ↔ isIdentifier name = true ∧ name ∉ keywords := by
  rw [isIdentifier_iff]
  exact ⟨fun h => ⟨h.identifier, h.free⟩, fun h => ⟨h.1, h.2⟩⟩

instance (name : String) : Decidable (Declarable name) := decidable_of_iff' _ declarable_iff

theorem isIdentifier_of_mem_keywords : ∀ name ∈ keywords, isIdentifier name = true := by decide

/-- The spelling of a name does not tell whether it is free. -/
theorem isIdentifier_iff_declarable : isIdentifier name = true ↔ Declarable name ∨ name ∈ keywords := by
  rw [declarable_iff]
  by_cases free : name ∈ keywords
  · simp only [isIdentifier_of_mem_keywords name free, free, or_true]
  · simp only [free, not_false_eq_true, and_true, or_false]

theorem declaredName_arrayDefinition (h : Identifier name.toList) (bytes : Bytes) :
    declaredName (arrayDefinition name bytes) = name := by
  have after : (arrayDefinition name bytes).toList.drop "char ".length =
      name.toList ++ '[' :: ("] = \x7b".toList ++ (items bytes ++ "\x7d;\n".toList)) := by
    simp only [toList_arrayDefinition, List.append_assoc]
    exact List.drop_left' String.length_toList
  rw [declaredName, after, h.takeWhile_append, String.ofList_toList]

/-- A name is taken if it can be declared or if it is a keyword. So a name that is taken can be declared unless it
is a keyword, and it is the name that stands in the text of the array. -/
theorem taken_names_are_free_or_keywords (name : String) :
    (isIdentifier name = true ↔ Declarable name ∨ name ∈ keywords) ∧
      ((isIdentifier name = true → Declarable name) ↔ name ∉ keywords) ∧
      ∀ bytes text, arrayDefinition? name bytes = some text →
        declaredName text = name ∧ (Declarable (declaredName text) ↔ declaredName text ∉ keywords) := by
  refine ⟨isIdentifier_iff_declarable, ⟨fun declarable word => ?_, fun free taken => ?_⟩, fun bytes text written => ?_⟩
  · exact (declarable (isIdentifier_of_mem_keywords name word)).free word
  · exact declarable_iff.mpr ⟨taken, free⟩
  · obtain ⟨identifier, rfl⟩ := arrayDefinition?_eq_some_iff.mp written
    have shown := declaredName_arrayDefinition identifier bytes
    rw [shown]
    exact ⟨rfl, Declarable.free, fun free => ⟨identifier, free⟩⟩

theorem taken_names_are_free_or_keywords_while :
    (arrayDefinition? "While" [65] = some "char While[] = \x7b0x41, 0x00\x7d;\n" ∧ Declarable "While") ∧
      arrayDefinition? "while" [65] = some "char while[] = \x7b0x41, 0x00\x7d;\n" ∧ ¬Declarable "while" := by
  have upper : arrayDefinition? "While" [65] = some "char While[] = \x7b0x41, 0x00\x7d;\n" := by decide
  have lower : arrayDefinition? "while" [65] = some "char while[] = \x7b0x41, 0x00\x7d;\n" := by decide
  obtain ⟨named, declarable⟩ := (taken_names_are_free_or_keywords "While").2.2 _ _ upper
  obtain ⟨named', declarable'⟩ := (taken_names_are_free_or_keywords "while").2.2 _ _ lower
  rw [named] at declarable
  rw [named'] at declarable'
  exact ⟨⟨upper, declarable.mpr (by decide)⟩, lower, fun h => absurd (declarable'.mp h) (by decide)⟩

/-- A keyword is taken, and what is written with it declares nothing. -/
theorem keyword_is_taken :
    isIdentifier "while" = true ∧ ¬Declarable "while" ∧
      ∃ text, arrayDefinition? "while" [] = some text ∧ ¬Declarable (declaredName text) := by
  have written : arrayDefinition? "while" [] = some "char while[] = \x7b0x00\x7d;\n" := by decide
  exact ⟨by decide, by decide, _, written, by decide⟩

end MembershipGrid.Embedding
