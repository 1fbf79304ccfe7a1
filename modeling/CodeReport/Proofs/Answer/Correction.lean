import CodeReport.Proofs.Answer.Parts
import CodeReport.Proofs.Assembly.Outcome

/-!
# How code gets into a section

Code comes into a report in two ways. The code of an entry is shown as it stands. The
corrected code of an answer is read as labels are, without its blank ends, and then
stands in the last section. So it is shown as it stands only if it is blank at neither
end. If its first line is indented, this line is shown without its indentation, and
the lines below it with theirs.
-/

namespace CodeReport

open Json (Value Members)

/-- The content of an entry of code is shown as it stands, be it blank or not. -/
theorem Entry.code_kept (entry : Members) (word code : String)
    (declared : entry.get? "type" = some (.string word))
    (named : Text.lowerCase (Text.trim word) = "code")
    (held : entry.get? "content" = some (.string code)) :
    (toSection entry).body = .code (entry.trimmedText? "language") code := by
  have kind : kindOf entry = .code := kindOf_of_word entry word .code declared named
  have made : (toSection entry).body = bodyOf entry := rfl
  rw [made, bodyOf, kind, held]
  rfl

namespace Answer

/-- The section of some corrected code. -/
theorem correction_of_code (answer : Answer) (code : String)
    (corrected : answer.correctedCode = some code) :
    answer.correction = [correctedCodeSection answer.language code] := by
  rw [correction, corrected]
  rfl

/-- Corrected code stands in the last section, behind those that are made of everything else. -/
theorem toSections_corrected (answer : Answer) (mode : Mode) (code : String)
    (content : ¬ answer.IsFailure mode) (corrected : answer.correctedCode = some code) :
    ∃ front key, answer.toSections mode =
      front ++ [{ correctedCodeSection answer.language code with key }] := by
  have last := answer.contentSections_correction mode
  rw [correction_of_code answer code corrected] at last
  rw [toSections, toSectionsWith, unnumberedSections_of_not_failure answer mode content, last,
    Section.numberKeysWith, Section.numberKeysAfter_append]
  exact ⟨_, _, rfl⟩

/-- Corrected code is read without its blank ends. -/
theorem correctedCode_ofJson (members : Members) (code : String)
    (held : members.get? "correctedCode" = some (.string code))
    (written : Text.isBlankText code = false) :
    (ofJson (.object members)).correctedCode = some (Text.trim code) := by
  have read : (ofJson (.object members)).correctedCode = members.trimmedText? "correctedCode" := rfl
  rw [read, trimmedText?_string code held, written]
  rfl

/-- An answer of nothing but corrected code is no failure. -/
theorem onlyCode_content (code : String) (mode : Mode) :
    ¬ (ofJson (.object [("correctedCode", .string code)])).IsFailure mode := by
  rintro (⟨message, fault⟩ | ⟨⟨message, fault⟩, _⟩ | denied)
  · cases fault
  · cases fault
  · cases denied

/-- Corrected code that is not blank is shown in the last section, without its blank ends. It is
shown as it stands exactly if it is blank at neither end, while the code of an entry always is. -/
theorem correction_trimmed (members : Members) (code : String) (mode : Mode)
    (held : members.get? "correctedCode" = some (.string code))
    (written : Text.isBlankText code = false)
    (content : ¬ (ofJson (.object members)).IsFailure mode) :
    (∃ front key, (ofJson (.object members)).toSections mode =
      front ++ [{ key
                  title := "Corrected Code"
                  body := .code (members.trimmedText? "language") (Text.trim code)
                  severity := some .success
                  rationale := .empty
                  steps := []
                  chart := [] }]) ∧
    Text.IsTrimmed code (Text.trim code) ∧
    (Text.trim code = code ↔
      (∀ c ∈ code.toList.head?, Text.isBlank c = false) ∧
        ∀ c ∈ code.toList.getLast?, Text.isBlank c = false) ∧
    ∀ (entry : Members) (word : String), entry.get? "type" = some (.string word) →
      Text.lowerCase (Text.trim word) = "code" → entry.get? "content" = some (.string code) →
      (Entry.toSection entry).body = .code (entry.trimmedText? "language") code := by
  refine ⟨?_, Text.isTrimmed_trim code, Text.trim_eq_self_iff code, ?_⟩
  · exact toSections_corrected _ mode _ content (correctedCode_ofJson members code held written)
  · intro entry word declared named brought
    exact Entry.code_kept entry word code declared named brought

/-- An indented line that ends with a line feed is shown without its indentation and without the
line feed. -/
theorem indented_correction_trimmed :
    ∃ front key,
      (ofJson (.object [("correctedCode", .string "    return total\n")])).toSections .debug =
        front ++ [{ key
                    title := "Corrected Code"
                    body := .code none "return total"
                    severity := some .success
                    rationale := .empty
                    steps := []
                    chart := [] }] := by
  have content := onlyCode_content "    return total\n" .debug
  have trimmed : Text.trim "    return total\n" = "return total" := by decide
  have shown := (correction_trimmed _ "    return total\n" .debug rfl (by decide) content).1
  rwa [trimmed] at shown

/-- Corrected code is not always shown as it stands. -/
theorem correction_not_verbatim :
    ¬ ∀ (members : Members) (code : String) (mode : Mode),
      members.get? "correctedCode" = some (.string code) → Text.isBlankText code = false →
      ¬ (ofJson (.object members)).IsFailure mode →
      ∃ block, ((ofJson (.object members)).toSections mode).getLast? = some block ∧
        block.body = .code (members.trimmedText? "language") code := by
  intro verbatim
  have content := onlyCode_content " x" .analysis
  obtain ⟨block, last, same⟩ := verbatim _ " x" .analysis rfl (by decide) content
  have corrected := correctedCode_ofJson [("correctedCode", .string " x")] " x" rfl (by decide)
  obtain ⟨front, key, shown⟩ := toSections_corrected _ .analysis _ content corrected
  rw [shown, List.getLast?_concat, Option.some.injEq] at last
  subst last
  have source : Text.trim " x" = " x" := (Section.Body.code.inj same).2
  exact absurd source (by decide)

end Answer

end CodeReport
