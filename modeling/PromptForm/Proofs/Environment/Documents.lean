import Mathlib.Data.List.Forall2
import PromptForm.Environment.Document
import PromptForm.Proofs.Toml.Documents

/-! # Configurations as files, written and read back

A section of a configuration holds an entry for each setting that is set (`Config.get?_entry`), and a setting without
an entry is read as one that is not set (`Config.optional?_map`). So every section reads back, and with them the
configuration (`Config.ofText?_toText`), as long as what it holds can be written at all. -/

namespace PromptForm.Config
variable {α : Type} {key name : String} {plain : α → Toml.Plain} {setting : Option α} {c : Config}

/-- What can be written: a count of 32 bits, and a temperature whose text is read as it. -/
structure IsWritable (c : Config) : Prop where
  tokens : ∀ n, c.llm.maxTokens = some n → n < Number.twoTo 32
  temperature : ∀ t, c.llm.temperature = some t →
    Toml.scalar? (Number.Layout.fraction.text t).toList = some (.float t)

/-! ### Entries -/

theorem mem_entry {e : String × Toml.Plain} : e ∈ entry name plain setting ↔
    ∃ a, setting = some a ∧ (name, plain a) = e := by
  rw [entry, Option.mem_toList, Option.map_eq_some_iff]

theorem names_entry : ((entry name plain setting).map Prod.fst).Sublist [name] := by
  cases setting with
  | none => exact List.nil_sublist _
  | some a => exact List.Sublist.refl _

@[simp] theorem get?_entry : Fields.get? key ((entry name plain setting).map fun e => (e.1, e.2.toValue)) =
    if name = key then setting.map fun a => (plain a).toValue else none := by
  cases setting with
  | none => simp [entry]
  | some a => simp [entry, Fields.get?]

/-! ### Sections -/

/-- Each field under the only one of its names that is there. -/
theorem fields?_ofList {pairs : List (String × Value)} (hnodup : (pairs.map Prod.fst).Nodup)
    {names : List (List String)} {found : List (Option Value)}
    (h : List.Forall₂ (fun aliases v => aliases.filterMap (Fields.get? · pairs) = v.toList) names found)
    (surplus : Bool) : fields? surplus names (.object (Fields.ofList pairs)) = some found := by
  rw [fields?]
  simp only [Fields.get?_ofList hnodup]
  induction h with
  | nil => rfl
  | @cons aliases v names found hv _ ih =>
    -- One value at most was found under the aliases, so they are not ambiguous.
    rw [List.mapM_cons, hv, ih]
    cases v <;> rfl

/-- A setting reads back from its entry. -/
theorem optional?_map {write : α → Value} {read : Value → Option α} (setting : Option α)
    (h : ∀ a, setting = some a → write a ≠ .null ∧ read (write a) = some a) :
    optional? read (setting.map write) = some setting := by
  cases setting with
  | none => rfl
  | some a =>
    obtain ⟨hnull, hread⟩ := h a rfl
    rw [Option.map_some, optional?, hread]
    · rfl
    · exact hnull

/-- The fields of a section that has no name twice. -/
theorem fields?_section {entries : List (String × Toml.Plain)} (hnodup : (entries.map Prod.fst).Nodup)
    {names : List (List String)} {found : List (Option Value)}
    (h : List.Forall₂ (fun aliases v =>
      aliases.filterMap (Fields.get? · (entries.map fun e => (e.1, e.2.toValue))) = v.toList) names found)
    (surplus : Bool) : fields? surplus names (Toml.Section.toValue ⟨name, entries⟩) = some found :=
  fields?_ofList (by rwa [List.map_map]) h surplus

/-- A section is sound if its names are among some that can stand without quotes. -/
theorem isSound_section {entries : List (String × Toml.Plain)} {names : List String}
    (hnames : (entries.map Prod.fst).Sublist names) (hnodup : names.Nodup) (hbare : ∀ n ∈ name :: names, Toml.IsBare n)
    (hvalues : ∀ e ∈ entries, e.2.ReadsBack) : Toml.Section.IsSound ⟨name, entries⟩ where
  name := hbare name List.mem_cons_self
  names _ he := hbare _ (List.mem_cons_of_mem name (hnames.mem (List.mem_map_of_mem he)))
  values := hvalues
  nodup := hnames.nodup hnodup

theorem readsBack_entry (h : ∀ a, setting = some a → (plain a).ReadsBack) :
    ∀ e ∈ entry name plain setting, e.2.ReadsBack := by
  intro e he
  obtain ⟨a, ha, rfl⟩ := mem_entry.mp he
  exact h a ha

theorem optional?_string (setting : Option String) : optional? Value.toString? (setting.map .string) = some setting :=
  optional?_map setting fun _ _ => ⟨by simp, rfl⟩

theorem optional?_bool (setting : Option Bool) : optional? Value.toBool? (setting.map .bool) = some setting :=
  optional?_map setting fun _ _ => ⟨by simp, rfl⟩

theorem optional?_tokens {setting : Option Nat} (h : ∀ n, setting = some n → n < Number.twoTo 32) :
    optional? tokens? (setting.map fun n : Nat => .int n) = some setting := by
  refine optional?_map setting fun n hn => ⟨by simp [Value.int], ?_⟩
  have hcount : Value.toCount? (.int n) = some n := by
    simp [Value.toCount?, Value.toNumber?, Value.int, Number.toCount?]
  rw [tokens?, hcount, Option.filter_some, if_pos (decide_eq_true (h n hn))]

theorem optional?_degrees (setting : Option Float) : optional? degrees? (setting.map .float) = some setting :=
  optional?_map setting fun _ _ => ⟨by simp [Value.float], rfl⟩

/-! ### The four sections -/

def llmEntries (s : LlmSettings) : List (String × Toml.Plain) :=
  entry "model" .string s.model ++ entry "provider" .string s.provider ++
    entry "max_tokens" .count s.maxTokens ++ entry "temperature" .float s.temperature

def outputEntries (s : OutputSettings) : List (String × Toml.Plain) :=
  entry "format" .string s.format ++ entry "trim" .bool s.trim ++ entry "indent" .string s.indent

def codeEntries (s : CodeSettings) : List (String × Toml.Plain) :=
  entry "language" .string s.language ++ entry "highlight" .bool s.highlight

def userEntries (s : UserSettings) : List (String × Toml.Plain) := entry "editor" .string s.editor

theorem sections_eq (c : Config) : c.sections = [⟨"llm", llmEntries c.llm⟩, ⟨"output", outputEntries c.output⟩,
    ⟨"code", codeEntries c.code⟩, ⟨"user", userEntries c.user⟩] := rfl

theorem names_llmEntries (s : LlmSettings) :
    ((llmEntries s).map Prod.fst).Sublist ["model", "provider", "max_tokens", "temperature"] := by
  simp only [llmEntries, List.map_append]
  exact ((names_entry.append names_entry).append names_entry).append names_entry

theorem names_outputEntries (s : OutputSettings) :
    ((outputEntries s).map Prod.fst).Sublist ["format", "trim", "indent"] := by
  simp only [outputEntries, List.map_append]
  exact (names_entry.append names_entry).append names_entry

theorem names_codeEntries (s : CodeSettings) : ((codeEntries s).map Prod.fst).Sublist ["language", "highlight"] := by
  simp only [codeEntries, List.map_append]
  exact names_entry.append names_entry

theorem isSound_llm (h : c.IsWritable) : Toml.Section.IsSound ⟨"llm", llmEntries c.llm⟩ := by
  refine isSound_section (names_llmEntries c.llm) (by decide) (by decide +kernel) ?_
  have hbound : Number.twoTo 32 ≤ Number.twoTo 127 := Nat.pow_le_pow_right (by decide) (by decide)
  simp only [llmEntries, List.forall_mem_append]
  exact ⟨⟨⟨readsBack_entry fun _ _ => trivial, readsBack_entry fun _ _ => trivial⟩,
    readsBack_entry fun n hn => Nat.lt_of_lt_of_le (h.tokens n hn) hbound⟩, readsBack_entry h.temperature⟩

theorem isSound_output (s : OutputSettings) : Toml.Section.IsSound ⟨"output", outputEntries s⟩ := by
  refine isSound_section (names_outputEntries s) (by decide) (by decide +kernel) ?_
  simp only [outputEntries, List.forall_mem_append]
  exact ⟨⟨readsBack_entry fun _ _ => trivial, readsBack_entry fun _ _ => trivial⟩, readsBack_entry fun _ _ => trivial⟩

theorem isSound_code (s : CodeSettings) : Toml.Section.IsSound ⟨"code", codeEntries s⟩ := by
  refine isSound_section (names_codeEntries s) (by decide) (by decide +kernel) ?_
  simp only [codeEntries, List.forall_mem_append]
  exact ⟨readsBack_entry fun _ _ => trivial, readsBack_entry fun _ _ => trivial⟩

theorem isSound_user (s : UserSettings) : Toml.Section.IsSound ⟨"user", userEntries s⟩ :=
  isSound_section names_entry (by decide) (by decide +kernel) (readsBack_entry fun _ _ => trivial)

theorem llmOf?_toValue (h : c.IsWritable) (name : String) :
    llmOf? true (Toml.Section.toValue ⟨name, llmEntries c.llm⟩) = some c.llm := by
  have hfields : fields? true [["model"], ["provider"], ["max_tokens", "maxTokens"], ["temperature"]]
      (Toml.Section.toValue ⟨name, llmEntries c.llm⟩) = some [c.llm.model.map .string, c.llm.provider.map .string,
        c.llm.maxTokens.map fun n => .int n, c.llm.temperature.map .float] := by
    apply fields?_section ((names_llmEntries c.llm).nodup (by decide))
    simp [llmEntries, List.filterMap_eq_flatMap_toList]
  rw [llmOf?, hfields]
  simp only [Option.bind_eq_bind, Option.bind_some, optional?_string, optional?_tokens h.tokens, optional?_degrees]
  rfl

theorem outputOf?_toValue (s : OutputSettings) (name : String) :
    outputOf? true (Toml.Section.toValue ⟨name, outputEntries s⟩) = some s := by
  have hfields : fields? true [["format"], ["trim"], ["indent"]] (Toml.Section.toValue ⟨name, outputEntries s⟩) =
      some [s.format.map .string, s.trim.map .bool, s.indent.map .string] := by
    apply fields?_section ((names_outputEntries s).nodup (by decide))
    simp [outputEntries, List.filterMap_eq_flatMap_toList]
  rw [outputOf?, hfields]
  simp only [Option.bind_eq_bind, Option.bind_some, optional?_string, optional?_bool]
  rfl

theorem codeOf?_toValue (s : CodeSettings) (name : String) :
    codeOf? true (Toml.Section.toValue ⟨name, codeEntries s⟩) = some s := by
  have hfields : fields? true [["language"], ["highlight"]] (Toml.Section.toValue ⟨name, codeEntries s⟩) =
      some [s.language.map .string, s.highlight.map .bool] := by
    apply fields?_section ((names_codeEntries s).nodup (by decide))
    simp [codeEntries, List.filterMap_eq_flatMap_toList]
  rw [codeOf?, hfields]
  simp only [Option.bind_eq_bind, Option.bind_some, optional?_string, optional?_bool]
  rfl

theorem userOf?_toValue (s : UserSettings) (name : String) :
    userOf? true (Toml.Section.toValue ⟨name, userEntries s⟩) = some s := by
  have hfields : fields? true [["editor"]] (Toml.Section.toValue ⟨name, userEntries s⟩) =
      some [s.editor.map .string] := by
    apply fields?_section (names_entry.nodup (by decide))
    simp [List.filterMap_eq_flatMap_toList]
  rw [userOf?, hfields]
  simp only [Option.bind_eq_bind, Option.bind_some, optional?_string]
  rfl

/-! ### Whole configurations -/

theorem isSound_sections (h : c.IsWritable) : ∀ s ∈ c.sections, s.IsSound := by
  rw [sections_eq]
  simp only [List.forall_mem_cons]
  exact ⟨isSound_llm h, isSound_output c.output, isSound_code c.code, isSound_user c.user, List.forall_mem_nil _⟩

theorem names_sections (c : Config) : c.sections.map Toml.Section.name = ["llm", "output", "code", "user"] := rfl

/-- The text of a configuration reads back as that configuration. -/
theorem ofText?_toText (h : c.IsWritable) : ofText? c.toText = some c := by
  have hnodup : (c.sections.map Toml.Section.name).Nodup := by
    rw [names_sections]
    decide
  have hfields : fields? true [["llm"], ["output"], ["code"], ["user"]]
      (.object (Fields.ofList (c.sections.map fun s => (s.name, s.toValue)))) =
      some [some (Toml.Section.toValue ⟨"llm", llmEntries c.llm⟩),
        some (Toml.Section.toValue ⟨"output", outputEntries c.output⟩),
        some (Toml.Section.toValue ⟨"code", codeEntries c.code⟩),
        some (Toml.Section.toValue ⟨"user", userEntries c.user⟩)] := by
    apply fields?_ofList (by rwa [List.map_map])
    simp [sections_eq, Fields.get?]
  rw [ofText?, toText, Toml.read?_write (isSound_sections h) hnodup, Option.bind_some, ofValueWith?, hfields]
  simp only [Option.bind_eq_bind, Option.bind_some, section?, llmOf?_toValue h, outputOf?_toValue, codeOf?_toValue,
    userOf?_toValue]
  rfl

end PromptForm.Config
