import CodeReport.Output.Format
import CodeReport.Proofs.Json.Shape

/-!
# Stored reports

A report that is rendered as JSON is stored: its text is read back as the same
report. Every field comes back, whether it was written or left out, and so does
the body of a section, whose fields stand among the other members of the section.

The proof follows the written members. Those of a section are the members before
the body's fields, these fields, and the members behind them. No name stands in
two of the three groups, so each member is looked up as if its group stood alone.
-/

namespace CodeReport

open Json (Value Members Storable)

namespace ScoreBar

/-- A bar is read back from what is written for it. -/
theorem ofJson?_toJson (bar : ScoreBar) : ofJson? bar.toJson = some bar := by
  have label : bar.members.required? "label" Value.string? = some bar.label :=
    Members.required?_written (.string bar.label) (by simp [members]) rfl
  have score : bar.members.required? "score" Value.byte? = some bar.score :=
    Members.required?_written (.ofByte bar.score) (by simp [members]) (Value.byte?_ofByte bar.score)
  simp only [ofJson?, toJson, Value.record?, Option.bind_eq_bind, Option.bind_some, label, score]
  rfl

/-- What is written for a bar is one level deep. -/
theorem storable_toJson (depth : Nat) (bar : ScoreBar) : Storable (depth + 1) bar.toJson := by
  have each : Members.EachStorable depth bar.members :=
    .cons _ (.string depth _) (.cons _ (Value.storable_ofByte depth _)
      (Members.eachStorable_nil depth))
  have among : bar.members.names.Sublist fields := List.Sublist.refl _
  exact each.object among (by decide)

end ScoreBar

namespace Section

namespace Rationale

/-- A rationale is read back from what is written for it. -/
theorem ofJson?_toJson (rationale : Rationale) : ofJson? rationale.toJson = some rationale := by
  have explanation : rationale.members.orDefault? "explanation" none (Value.orNull? Value.string?)
      = some rationale.explanation :=
    Members.orDefault?_optional .string (by simp [members]) fun _ => rfl
  have impact : rationale.members.orDefault? "impact" none (Value.orNull? Value.string?)
      = some rationale.impact :=
    Members.orDefault?_optional .string (by simp [members]) fun _ => rfl
  have confidence : rationale.members.orDefault? "confidence" none (Value.orNull? Value.byte?)
      = some rationale.confidence :=
    Members.orDefault?_optional .ofByte (by simp [members]) fun byte =>
      Value.orNull?_some rfl (Value.byte?_ofByte byte)
  have references : rationale.members.orDefault? "references" [] Value.texts?
      = some rationale.references :=
    Members.orDefault?_unlessEmpty .ofTexts (by simp [members]) (Value.texts?_ofTexts _)
  simp only [ofJson?, toJson, Value.record?, Option.bind_eq_bind, Option.bind_some, explanation,
    impact, confidence, references]
  rfl

/-- What is written for a rationale is two levels deep, because of its references. -/
theorem storable_toJson (depth : Nat) (rationale : Rationale) :
    Storable (depth + 2) rationale.toJson := by
  have each : Members.EachStorable (depth + 1) rationale.members :=
    .append
      (.append
        (.append (Members.eachStorable_optional _ _ fun text => .string _ text)
          (Members.eachStorable_optional _ _ fun text => .string _ text))
        (Members.eachStorable_optional _ _ fun byte => Value.storable_ofByte _ byte))
      (Members.eachStorable_unlessEmpty _ _ (Value.storable_ofTexts depth _))
  have among : rationale.members.names.Sublist fields := by
    simp only [members, Members.names_append]
    exact (((Members.names_optional _ _ _).append (Members.names_optional _ _ _)).append
      (Members.names_optional _ _ _)).append (Members.names_unlessEmpty _ _ _)
  exact each.object among (by decide)

end Rationale

namespace Body

/-- The members of a body have names of the fields of its tag. -/
theorem names_fieldMembers (body : Body) : body.fieldMembers.names.Sublist body.tag.fields := by
  cases body with
  | code language content =>
    simp only [fieldMembers, Members.names_append]
    exact (Members.names_optional _ _ _).append (List.Sublist.refl _)
  | _ => exact List.Sublist.refl _

/-- The body is read from members among which its fields are found. -/
theorem ofMembers?_tag (body : Body) (members : Members)
    (found : ∀ name ∈ body.tag.fields, members.get? name = body.fieldMembers.get? name) :
    ofMembers? body.tag members = some body := by
  cases body with
  | text content =>
    have contentFound : members.get? "content" = some (.string content) := by
      simpa [tag, Tag.fields, fieldMembers] using found
    have contentRead : members.required? "content" Value.string? = some content :=
      Members.required?_written _ contentFound rfl
    simp [ofMembers?, tag, contentRead]
  | list kind items =>
    obtain ⟨kindFound, itemsFound⟩ : members.get? "listKind" = some (.string kind.name) ∧
        members.get? "items" = some (.ofTexts items) := by
      simpa [tag, Tag.fields, fieldMembers] using found
    have kindRead : members.orDefault? "listKind" .bullet
        (Value.namedThing? isNothing ListKind.named) = some kind := by
      rw [Members.orDefault?, kindFound]
      cases kind <;> rfl
    have itemsRead : members.required? "items" Value.texts? = some items :=
      Members.required?_written _ itemsFound (Value.texts?_ofTexts items)
    simp [ofMembers?, tag, kindRead, itemsRead]
  | table headers rows =>
    obtain ⟨headersFound, rowsFound⟩ : members.get? "headers" = some (.ofTexts headers) ∧
        members.get? "rows" = some (.array (rows.map Value.ofTexts)) := by
      simpa [tag, Tag.fields, fieldMembers] using found
    have headersRead : members.required? "headers" Value.texts? = some headers :=
      Members.required?_written _ headersFound (Value.texts?_ofTexts headers)
    have rowsRead : members.required? "rows" (Value.listOf? Value.texts?) = some rows :=
      Members.required?_written _ rowsFound (Value.listOf?_map rows Value.texts?_ofTexts)
    simp [ofMembers?, tag, headersRead, rowsRead]
  | code language content =>
    obtain ⟨languageFound, contentFound⟩ : members.get? "language" = language.map .string ∧
        members.get? "content" = some (.string content) := by
      simpa [tag, Tag.fields, fieldMembers] using found
    have languageRead : members.orDefault? "language" none (Value.orNull? Value.string?) =
        some language :=
      Members.orDefault?_optional .string languageFound fun _ => rfl
    have contentRead : members.required? "content" Value.string? = some content :=
      Members.required?_written _ contentFound rfl
    simp [ofMembers?, tag, languageRead, contentRead]
  | degraded expected reason =>
    obtain ⟨expectedFound, reasonFound⟩ :
        members.get? "expected" = some (.string expected.name) ∧
          members.get? "reason" = some (.string reason) := by
      simpa [tag, Tag.fields, fieldMembers] using found
    have expectedRead : members.required? "expected" (Value.namedThing? isNothing Kind.named) =
        some expected :=
      Members.required?_written _ expectedFound (by cases expected <;> rfl)
    have reasonRead : members.required? "reason" Value.string? = some reason :=
      Members.required?_written _ reasonFound rfl
    simp [ofMembers?, tag, expectedRead, reasonRead]

/-- The members of a body are at most two levels deep, because of the rows of tables. -/
theorem eachStorable_fieldMembers (depth : Nat) (body : Body) :
    Members.EachStorable (depth + 2) body.fieldMembers := by
  have nothing := Members.eachStorable_nil (depth + 2)
  cases body with
  | text content => exact .cons _ (.string _ content) nothing
  | list kind items =>
    exact .cons _ (.string _ kind.name) (.cons _ (Value.storable_ofTexts _ items) nothing)
  | table headers rows =>
    have rowsStorable := Value.storable_map rows (Value.storable_ofTexts depth)
    exact .cons _ (Value.storable_ofTexts _ headers) (.cons _ rowsStorable nothing)
  | code language content =>
    exact .append (Members.eachStorable_optional _ language fun text => .string _ text)
      (.cons _ (.string _ content) nothing)
  | degraded expected reason =>
    exact .cons _ (.string _ expected.name) (.cons _ (.string _ reason) nothing)

end Body

/-- What stands before the fields of the body, as members. -/
def leadingMembers (block : Section) : Members :=
  [("key", .string block.key.text), ("title", .string block.title),
    ("type", .string block.body.tag.name)]

/-- The members of a section are in three groups. -/
theorem members_groups (block : Section) :
    block.members = block.leadingMembers ++ block.body.fieldMembers ++ block.furtherMembers :=
  rfl

/-- The names of the members behind the fields of a body. -/
def furtherNames : List String := ["severity", "meta", "steps", "chart"]

/-- The members behind the fields of a body have the names that are kept for them. -/
theorem names_furtherMembers (block : Section) :
    block.furtherMembers.names.Sublist furtherNames := by
  simp only [furtherMembers, Members.names_append]
  exact (((Members.names_optional _ _ _).append (Members.names_unless _ _ _)).append
    (Members.names_unlessEmpty _ _ _)).append (Members.names_unlessEmpty _ _ _)

/-- All names that the members of a section with a tag can have. -/
def namesWith (tag : Body.Tag) : List String :=
  ["key", "title", "type"] ++ tag.fields ++ furtherNames

/-- No field of a body has the name of another member of the section. -/
theorem nodup_namesWith (tag : Body.Tag) : (namesWith tag).Nodup := by
  cases tag <;> decide

/-- The members of a section have names that are known for the tag of its body. -/
theorem names_members (block : Section) :
    block.members.names.Sublist (namesWith block.body.tag) := by
  rw [members_groups, Members.names_append, Members.names_append]
  exact ((List.Sublist.refl _).append block.body.names_fieldMembers).append
    block.names_furtherMembers

/-- A field of the body is looked up as if it stood alone. -/
theorem get?_field (block : Section) (name : String) (field : name ∈ block.body.tag.fields) :
    block.members.get? name = block.body.fieldMembers.get? name := by
  have distinct := nodup_namesWith block.body.tag
  rw [namesWith, List.nodup_append, List.nodup_append] at distinct
  obtain ⟨⟨_, _, notLeading⟩, _, notFurther⟩ := distinct
  rw [members_groups]
  refine Members.get?_between name _ _ _ ?_ ?_
  · intro leading
    exact notLeading name leading name field rfl
  · intro further
    exact notFurther name (List.mem_append_right _ field) name
      (block.names_furtherMembers.subset further) rfl

/-- A member behind the body is looked up as if the body were not there. -/
theorem get?_further (block : Section) (name : String) (further : name ∈ furtherNames) :
    block.members.get? name = block.furtherMembers.get? name := by
  have distinct := nodup_namesWith block.body.tag
  rw [namesWith, List.nodup_append] at distinct
  have foreign : name ∉ (block.leadingMembers ++ block.body.fieldMembers).names := by
    intro before
    rw [Members.names_append] at before
    have inside := ((List.Sublist.refl _).append block.body.names_fieldMembers).subset before
    exact distinct.2.2 name inside name further rfl
  rw [members_groups, Members.get?_append, Members.get?_foreign name _ foreign, Option.none_or]

/-- A section is read back from what is written for it. -/
theorem ofJson?_toJson (block : Section) : ofJson? block.toJson = some block := by
  have keyRead : block.members.required? "key" Value.string? = some block.key.text :=
    Members.required?_written (.string block.key.text) (by simp [members]) rfl
  have titleRead : block.members.required? "title" Value.string? = some block.title :=
    Members.required?_written (.string block.title) (by simp [members]) rfl
  have tagRead : block.members.required? "type" Body.Tag.ofNameOrPlace? = some block.body.tag :=
    Members.required?_written (.string block.body.tag.name) (by simp [members, Body.members])
      (by cases block.body.tag <;> rfl)
  have bodyRead : Body.ofMembers? block.body.tag block.members = some block.body :=
    block.body.ofMembers?_tag block.members block.get?_field
  have severityRead : block.members.orDefault? "severity" none
      (Value.orNull? (Value.named? Severity.named)) = some block.severity := by
    refine Members.orDefault?_optional (fun severity => .string severity.name) ?_ ?_
    · rw [get?_further block "severity" (by decide)]
      simp [furtherMembers]
    · intro severity
      cases severity <;> rfl
  have rationaleRead : block.members.orDefault? "meta" .empty Rationale.ofJson? =
      some block.rationale := by
    have found : block.members.get? "meta" =
        if block.rationale.isEmpty = false then some block.rationale.toJson else none := by
      rw [get?_further block "meta" (by decide)]
      simp [furtherMembers]
    rw [Members.orDefault?, found]
    by_cases nothing : block.rationale.isEmpty = true
    · rw [nothing, (Rationale.isEmpty_iff _).mp nothing]
      rfl
    · rw [if_pos (Bool.eq_false_iff.mpr nothing)]
      exact Rationale.ofJson?_toJson _
  have stepsRead : block.members.orDefault? "steps" [] Value.texts? = some block.steps := by
    refine Members.orDefault?_unlessEmpty .ofTexts ?_ (Value.texts?_ofTexts _)
    rw [get?_further block "steps" (by decide)]
    simp [furtherMembers]
  have chartRead : block.members.orDefault? "chart" [] (Value.listOf? ScoreBar.ofJson?) =
      some block.chart := by
    refine Members.orDefault?_unlessEmpty (fun bars => .array (bars.map ScoreBar.toJson)) ?_
      (Value.listOf?_map _ ScoreBar.ofJson?_toJson)
    rw [get?_further block "chart" (by decide)]
    simp [furtherMembers]
  simp [ofJson?, toJson, Value.object?, keyRead, titleRead, tagRead, bodyRead, severityRead,
    rationaleRead, stepsRead, chartRead]

/-- What is written for a section is three levels deep. -/
theorem storable_toJson (depth : Nat) (block : Section) : Storable (depth + 3) block.toJson := by
  have leading : Members.EachStorable (depth + 2) block.leadingMembers :=
    .cons _ (.string _ _) (.cons _ (.string _ _) (.cons _ (.string _ _)
      (Members.eachStorable_nil _)))
  have further : Members.EachStorable (depth + 2) block.furtherMembers :=
    .append
      (.append
        (.append (Members.eachStorable_optional _ _ fun severity => .string _ severity.name)
          (Members.eachStorable_unless _ _ (block.rationale.storable_toJson depth)))
        (Members.eachStorable_unlessEmpty _ _ (Value.storable_ofTexts _ _)))
      (Members.eachStorable_unlessEmpty _ _ (Value.storable_map _ (ScoreBar.storable_toJson depth)))
  have each : Members.EachStorable (depth + 2) block.members := by
    rw [members_groups]
    exact .append (.append leading (block.body.eachStorable_fieldMembers depth)) further
  exact each.object block.names_members (nodup_namesWith _)

end Section

namespace Report

/-- A report is read back from what is written for it. -/
theorem ofJson?_toJson (report : Report) : ofJson? report.toJson = some report := by
  have titleRead : report.members.required? "title" Value.string? = some report.title :=
    Members.required?_written (.string report.title) (by simp [members]) rfl
  have introductionRead : report.members.required? "introduction" Value.string? =
      some report.introduction :=
    Members.required?_written (.string report.introduction) (by simp [members]) rfl
  have modeRead : report.members.required? "mode" (Value.named? Mode.named) = some report.mode :=
    Members.required?_written (.string report.mode.name) (by simp [members])
      (by cases report.mode <;> rfl)
  have warningRead : report.members.orDefault? "warning" none (Value.orNull? Value.string?) =
      some report.warning :=
    Members.orDefault?_optional .string (by simp [members]) fun _ => rfl
  have modelRead : report.members.orDefault? "model" none (Value.orNull? Value.string?) =
      some report.model :=
    Members.orDefault?_optional .string (by simp [members]) fun _ => rfl
  have sectionsRead : report.members.required? "sections" (Value.listOf? Section.ofJson?) =
      some report.sections :=
    Members.required?_written (.array (report.sections.map Section.toJson)) (by simp [members])
      (Value.listOf?_map _ Section.ofJson?_toJson)
  simp [ofJson?, toJson, Value.record?, titleRead, introductionRead, modeRead, warningRead,
    modelRead, sectionsRead]

/-- What is written for a report is five levels deep. -/
theorem storable_toJson (depth : Nat) (report : Report) : Storable (depth + 5) report.toJson := by
  have texts : Members.EachStorable (depth + 4)
      [("title", .string report.title), ("introduction", .string report.introduction),
        ("mode", .string report.mode.name)] :=
    .cons _ (.string _ _) (.cons _ (.string _ _) (.cons _ (.string _ _)
      (Members.eachStorable_nil _)))
  have sections : Members.EachStorable (depth + 4)
      [("sections", .array (report.sections.map Section.toJson))] :=
    .cons _ (Value.storable_map _ (Section.storable_toJson depth)) (Members.eachStorable_nil _)
  have each : Members.EachStorable (depth + 4) report.members :=
    .append
      (.append (.append texts (Members.eachStorable_optional _ _ fun text => .string _ text))
        (Members.eachStorable_optional _ _ fun text => .string _ text))
      sections
  have among : report.members.names.Sublist fields := by
    simp only [members, Members.names_append]
    exact (((List.Sublist.refl _).append (Members.names_optional _ _ _)).append
      (Members.names_optional _ _ _)).append (List.Sublist.refl _)
  exact each.object among (by decide)

/-- The report that a text writes. -/
def ofText? (text : String) : Option Report :=
  (Value.ofText text).toOption.bind ofJson?

/-- A report that is rendered as JSON is read back from its text, whatever is open. -/
theorem ofText?_render_json (report : Report) (openness : Openness) (colour : Bool) :
    ofText? (report.render openness colour .json) = some report := by
  have text : Value.ofText (report.render openness colour .json) = .ok report.toJson :=
    Value.ofText_pretty _ (report.storable_toJson 122)
  have value : (Value.ofText (report.render openness colour .json)).toOption =
      some report.toJson := by
    rw [text]
    rfl
  rw [ofText?, value, Option.bind_some, ofJson?_toJson]

end Report

end CodeReport
