import InterpreterHost.Proofs.Json.Records
import InterpreterHost.Proofs.Text.Utf8

/-!
# Configurations that are written and read

The file of a configuration is read as that configuration, and a file from which parts were taken as the
configuration with the defaults in their place.  The second is said of all texts of what is left, since who
takes a part out of a file does not write the rest anew.

## Main definitions

* `Removal` — sections and fields that are taken out of a document
* `Config.without` — the configuration with the defaults in their place
* `Config.Overlays` — what is known of the files of a configuration

## Main statements

* `Config.ofFile_spelled` — a file is read by what is in it, however that is laid out
* `Config.overlays` — a file overlays the defaults
-/

namespace InterpreterHost

open Json

/-! ## Sections -/

namespace InterpreterConfig

/-- The entries of the section. -/
def parts (c : InterpreterConfig) : List (Setting InterpreterConfig) :=
  [⟨.of "thread_name" (readText "a string") fun d v => { d with threadName := v }, .string c.threadName,
      fun d => { d with threadName := c.threadName }⟩,
    ⟨.of "stack_size" (readOptional readSize) fun d v => { d with stackSize := v },
      match c.stackSize with | some n => .integer n | none => .null, fun d => { d with stackSize := c.stackSize }⟩,
    ⟨.of "install_signal_handlers" readBool fun d v => { d with installSignalHandlers := v },
      .bool c.installSignalHandlers, fun d => { d with installSignalHandlers := c.installSignalHandlers }⟩,
    ⟨.of "search_paths" (readList (readText "path string")) fun d v => { d with searchPaths := v },
      .array (c.searchPaths.map .string), fun d => { d with searchPaths := c.searchPaths }⟩]

/-- The section with the defaults in the place of fields. -/
def without (removed : String → Bool) (c : InterpreterConfig) : InterpreterConfig where
  threadName := if removed "thread_name" then ({} : InterpreterConfig).threadName else c.threadName
  stackSize := if removed "stack_size" then ({} : InterpreterConfig).stackSize else c.stackSize
  installSignalHandlers :=
    if removed "install_signal_handlers" then ({} : InterpreterConfig).installSignalHandlers
    else c.installSignalHandlers
  searchPaths := if removed "search_paths" then ({} : InterpreterConfig).searchPaths else c.searchPaths

theorem toJson_eq (c : InterpreterConfig) : c.toJson = .object (c.parts.map Setting.entry) := rfl

theorem putAll_filter (removed : String → Bool) (c : InterpreterConfig) :
    Setting.putAll (c.parts.filter fun p => !removed p.field.name) {} = c.without removed := by
  unfold without
  simp only [parts, RecordField.of, List.filter_cons, List.filter_nil]
  cases removed "thread_name" <;> cases removed "stack_size" <;> cases removed "install_signal_handlers" <;>
    cases removed "search_paths" <;> rfl

theorem reads_stackSize {c : InterpreterConfig} (word : ∀ n, c.stackSize = some n → n < 0x10000000000000000) :
    Reads (readOptional readSize) (match c.stackSize with | some n => .integer n | none => .null) c.stackSize := by
  cases size : c.stackSize with
  | none => exact reads_none _
  | some n =>
    refine (reads_size (word n size)).some ?_
    rintro _ ⟨flat⟩
    obtain ⟨c, more, text, digit⟩ := exists_digit_natural n
    refine ⟨c, more, text, isBlank_of_digit digit, ?_⟩
    rintro rfl
    cases digit

theorem reads_parts {c : InterpreterConfig} (word : ∀ n, c.stackSize = some n → n < 0x10000000000000000) :
    ∀ p ∈ c.parts, p.Reads := by
  have texts : List.Forall₂ (Reads (readText "path string")) (c.searchPaths.map .string) c.searchPaths := by
    rw [List.forall₂_map_left_iff]
    exact List.forall₂_same.2 fun path _ => reads_text _ path
  have starts : ∀ v ∈ c.searchPaths.map Json.string, ∀ t, Spells v t → Starts t := by
    intro v mem t spells
    obtain ⟨path, -, rfl⟩ := List.mem_map.1 mem
    exact spells.starts fun _ => trivial
  simp only [parts, List.forall_mem_cons]
  exact ⟨Setting.reads_of (reads_text _ _), Setting.reads_of (reads_stackSize word), Setting.reads_of (reads_bool _),
    Setting.reads_of (reads_list texts starts), List.forall_mem_nil _⟩

/-- The section is read from what is left of it. -/
theorem reads_without {c : InterpreterConfig} (word : ∀ n, c.stackSize = some n → n < 0x10000000000000000)
    (removed : String → Bool) :
    Reads (readRecord "InterpreterConfig" {} Config.interpreterFields) (c.toJson.without removed)
      (c.without removed) := by
  have distinct : (Config.interpreterFields.map (·.name)).Nodup := by decide
  rw [toJson_eq, without_parts, ← putAll_filter]
  exact reads_filter distinct rfl (reads_parts word) _ _ _

end InterpreterConfig

namespace StateConfig

/-- The entries of the section. -/
def parts (c : StateConfig) : List (Setting StateConfig) :=
  [⟨.of "temp_dir" (readOptional (readText "path string")) fun d v => { d with tempDir := v },
    match c.tempDir with | some path => .string path | none => .null, fun d => { d with tempDir := c.tempDir }⟩]

/-- The section with the defaults in the place of fields. -/
def without (removed : String → Bool) (c : StateConfig) : StateConfig where
  tempDir := if removed "temp_dir" then ({} : StateConfig).tempDir else c.tempDir

theorem toJson_eq (c : StateConfig) : c.toJson = .object (c.parts.map Setting.entry) := rfl

theorem putAll_filter (removed : String → Bool) (c : StateConfig) :
    Setting.putAll (c.parts.filter fun p => !removed p.field.name) {} = c.without removed := by
  unfold without
  simp only [parts, RecordField.of, List.filter_cons, List.filter_nil]
  cases removed "temp_dir" <;> rfl

theorem reads_parts (c : StateConfig) : ∀ p ∈ c.parts, p.Reads := by
  have read : Reads (readOptional (readText "path string"))
      (match c.tempDir with | some path => .string path | none => .null) c.tempDir := by
    cases c.tempDir with
    | none => exact reads_none _
    | some path =>
      refine (reads_text _ path).some ?_
      rintro _ ⟨flat⟩
      exact ⟨'"', _, rfl, rfl, by decide⟩
  exact List.forall_mem_singleton.2 (Setting.reads_of read)

/-- The section is read from what is left of it. -/
theorem reads_without (c : StateConfig) (removed : String → Bool) :
    Reads (readRecord "StateConfig" {} Config.stateFields) (c.toJson.without removed) (c.without removed) := by
  have distinct : (Config.stateFields.map (·.name)).Nodup := by decide
  rw [toJson_eq, without_parts, ← putAll_filter]
  exact reads_filter distinct rfl c.reads_parts _ _ _

end StateConfig

/-! ## Files -/

/-- What is taken out of a document: sections as a whole, and fields of sections. -/
structure Removal where
  wholly : String → Bool
  field : String → String → Bool

/-- The document without what is taken out. -/
def Removal.apply (r : Removal) : Json → Json
  | .object sections =>
    .object ((sections.filter fun e => !r.wholly e.1).map fun e => (e.1, e.2.without (r.field e.1)))
  | j => j

namespace Config

/-- The configuration with the defaults in the place of what is taken out. -/
def without (r : Removal) (c : Config) : Config where
  interpreter := if r.wholly "interpreter" then {} else c.interpreter.without (r.field "interpreter")
  state := if r.wholly "state" then {} else c.state.without (r.field "state")

/-- The sections, without the fields that are taken out. -/
def parts (r : Removal) (c : Config) : List (Setting Config) :=
  [⟨.of "interpreter" (readRecord "InterpreterConfig" {} interpreterFields) fun d v => { d with interpreter := v },
      c.interpreter.toJson.without (r.field "interpreter"),
      fun d => { d with interpreter := c.interpreter.without (r.field "interpreter") }⟩,
    ⟨.of "state" (readRecord "StateConfig" {} stateFields) fun d v => { d with state := v },
      c.state.toJson.without (r.field "state"), fun d => { d with state := c.state.without (r.field "state") }⟩]

theorem apply_toJson (r : Removal) (c : Config) :
    r.apply c.toJson = .object (((c.parts r).filter fun p => !r.wholly p.field.name).map Setting.entry) := by
  simp only [Removal.apply, toJson, parts, RecordField.of, List.filter_cons, List.filter_nil]
  cases r.wholly "interpreter" <;> cases r.wholly "state" <;> rfl

theorem putAll_filter (r : Removal) (c : Config) :
    Setting.putAll ((c.parts r).filter fun p => !r.wholly p.field.name) {} = c.without r := by
  unfold without
  simp only [parts, RecordField.of, List.filter_cons, List.filter_nil]
  cases r.wholly "interpreter" <;> cases r.wholly "state" <;> rfl

/-- A configuration from which nothing is taken. -/
theorem without_nothing (c : Config) : c.without ⟨fun _ => false, fun _ _ => false⟩ = c := rfl

theorem apply_nothing (c : Config) : Removal.apply ⟨fun _ => false, fun _ _ => false⟩ c.toJson = c.toJson := by
  rw [apply_toJson]
  rfl

section

variable {c : Config} (word : ∀ n, c.interpreter.stackSize = some n → n < 0x10000000000000000)
include word

/-- The configuration is read from what is left of it. -/
theorem reads_without (r : Removal) : Reads (readRecord "RuntimeConfig" {} sections) (r.apply c.toJson) (c.without r) := by
  have reads : ∀ p ∈ c.parts r, p.Reads := by
    simp only [parts, List.forall_mem_cons]
    exact ⟨Setting.reads_of (c.interpreter.reads_without word _), Setting.reads_of (c.state.reads_without _),
      List.forall_mem_nil _⟩
  have distinct : (sections.map (·.name)).Nodup := by decide
  rw [apply_toJson, ← putAll_filter]
  exact reads_filter distinct rfl reads _ _ _

/-- So it is with all of a file, whatever blanks are around. -/
theorem ofFile_spelled (path : String) (r : Removal) {s t s' : List Char} (blank : Blank s) (blank' : Blank s')
    (spells : Spells (r.apply c.toJson) t) :
    ofFile path (.ok (Utf8.encode (s ++ (t ++ s')))) = .ok (c.without r) := by
  have parsed : parse (String.ofList (s ++ (t ++ s'))) = .ok (c.without r) :=
    (reads_without word r).readAll_eq blank spells blank'
  unfold ofFile
  dsimp only
  rw [Utf8.decode_encode]
  dsimp only
  rw [parsed]
  rfl

theorem ofFile_pretty (path : String) (r : Removal) :
    ofFile path (.ok (Utf8.encode (r.apply c.toJson).pretty.toList)) = .ok (c.without r) := by
  have read := ofFile_spelled word path r blank_nil blank_nil (spells_prettyChars (r.apply c.toJson) 0)
  rw [pretty, String.toList_ofList]
  rwa [List.nil_append, List.append_nil] at read

omit word in
/-- What is known of the files of a configuration. -/
structure Overlays (c : Config) : Prop where
  /-- The file that is written is read as the configuration. -/
  written : ∀ path, ofFile path (.ok (Utf8.encode c.text.toList)) = .ok c
  /-- Without some of its parts it is read as the configuration with the defaults in their place. -/
  printed : ∀ path r, ofFile path (.ok (Utf8.encode (r.apply c.toJson).pretty.toList)) = .ok (c.without r)
  /-- So is any other text of what is left. -/
  edited : ∀ path r s t s', Blank s → Spells (r.apply c.toJson) t → Blank s' →
    ofFile path (.ok (Utf8.encode (s ++ (t ++ s')))) = .ok (c.without r)
  /-- A size of the stack that is gone is the default one, while `null` in its place stays. -/
  stackSize : ∀ r, (c.without r).interpreter.stackSize =
    if r.wholly "interpreter" ∨ r.field "interpreter" "stack_size" then some (8 * 1024 * 1024)
    else c.interpreter.stackSize

/-- A file overlays the defaults with what is in it. -/
theorem overlays : c.Overlays where
  written path := by
    have read := ofFile_pretty word path ⟨fun _ => false, fun _ _ => false⟩
    rwa [apply_nothing, without_nothing] at read
  printed := ofFile_pretty word
  edited path r s t s' blank spells blank' := ofFile_spelled word path r blank blank' spells
  stackSize r := by
    unfold without InterpreterConfig.without
    cases r.wholly "interpreter" <;> cases r.field "interpreter" "stack_size" <;> rfl

end

/-- A configuration with the greatest size of the stack, and with texts that need escapes. -/
def greatest : Config where
  interpreter := { threadName := "\"\\\n\x00é", stackSize := some 0xffffffffffffffff, searchPaths := ["a", "a"] }
  state := { tempDir := some "/" }

/-- Its file without the size of the stack and without the second section has the defaults in their place. -/
theorem overlays_greatest : greatest.Overlays ∧
    greatest.without ⟨fun name => name = "state", fun _ name => name = "stack_size"⟩ =
      { interpreter := { greatest.interpreter with stackSize := some (8 * 1024 * 1024) } } := by
  refine ⟨overlays fun n size => ?_, by decide +kernel⟩
  cases size
  decide

end Config

end InterpreterHost
