import ToolBridge.Proofs.Document.Places
import ToolBridge.Settings
import ToolBridge.Wire.Diagnostic
import ToolBridge.Wire.Link

/-!
# Values that are written can be read back

Links, diagnostics and settings are written as JSON values and read from them by
separate definitions.  What is written is read back exactly: names and order of
the fields agree, a field that is left out or null is nothing again, and no
number is lost as long as it has a place in its type.
-/

namespace ToolBridge

namespace Json

/-! ## Fields -/

theorem intWithin?_int {low high value : Int} (lower : low ≤ value)
    (upper : value ≤ high) : intWithin? low high (.int value) = some value :=
  if_pos ⟨lower, upper⟩

theorem nat32?_nat {n : Nat} (fits : n < Nat.pow 2 32) : nat32? (.nat n) = some n := by
  have within : intWithin? 0 (Nat.pow 2 32 - 1) (.nat n) = some (n : Int) := by
    apply intWithin?_int
    · omega
    · omega
  rw [nat32?, within, Option.map_some, Int.toNat_natCast]

theorem nat64?_nat {n : Nat} (fits : n < Nat.pow 2 64) : nat64? (.nat n) = some n := by
  have within : intWithin? 0 (Nat.pow 2 64 - 1) (.nat n) = some (n : Int) := by
    apply intWithin?_int
    · omega
    · omega
  rw [nat64?, within, Option.map_some, Int.toNat_natCast]

theorem int32?_int {value : Int} (lower : -(Nat.pow 2 31 : Int) ≤ value)
    (upper : value < Nat.pow 2 31) : int32? (.int value) = some value :=
  intWithin?_int lower (Int.le_sub_one_of_lt upper)

def ofTexts (texts : List String) : Json :=
  .array (texts.map Json.string)

theorem listOf?_ofTexts (texts : List String) :
    listOf? string? (ofTexts texts) = some texts := by
  have read : string? ∘ Json.string = fun text => pure (id text) := rfl
  rw [ofTexts, listOf?, List.mapM_map, read, List.mapM_pure, List.map_id]
  rfl

theorem nullable?_of_telling {α : Type} (read : Json → Option α) {value : Json}
    (telling : value.isNull = false) :
    nullable? read value = (read value).map some := by
  cases value with
  | null => cases telling
  | _ => rfl

section Optional

variable {α : Type} {read : Json → Option α} {encode : α → Json} {value : Option α}

theorem optional_map
    (reads : ∀ content ∈ value, read (encode content) = some content)
    (telling : ∀ content, (encode content).isNull = false) :
    optional read (value.map encode) = some value := by
  cases value with
  | none => rfl
  | some content =>
      rw [Option.map_some, optional, nullable?_of_telling read (telling content)]
      rw [reads content rfl]
      rfl

theorem optional_ofOption
    (reads : ∀ content ∈ value, read (encode content) = some content)
    (telling : ∀ content, (encode content).isNull = false) :
    optional read (some (ofOption encode value)) = some value := by
  cases value with
  | none => rfl
  | some content => exact optional_map reads telling

end Optional

/-! ## Records -/

/-- In front of other fields, a field hides only those of its own name. -/
theorem lookupField_cons_of_ne {name other : String} (different : other ≠ name)
    (value : Json) (fields : List (String × Json)) :
    lookupField name ((other, value) :: fields) = lookupField name fields := by
  rw [lookupField, if_neg different]

theorem map_lookupField {fields : List (String × Json)}
    (distinct : (fields.map Prod.fst).Nodup) :
    (fields.map Prod.fst).map (fun name => lookupField name fields) =
      fields.map fun field => some field.2 := by
  induction fields with
  | nil => rfl
  | cons field fields ih =>
      obtain ⟨fresh, distinct⟩ := List.nodup_cons.mp distinct
      have behind : (fields.map Prod.fst).map
          (fun name => lookupField name (field :: fields)) =
          (fields.map Prod.fst).map fun name => lookupField name fields := by
        apply List.map_congr_left
        intro name member
        apply lookupField_cons_of_ne
        rintro rfl
        exact fresh member
      rw [List.map_cons, List.map_cons, behind, ih distinct, List.map_cons]
      rw [lookupField, if_pos rfl]

theorem record?_object {fields : List (String × Json)} (omissible : Nat)
    (distinct : (fields.map Prod.fst).Nodup) :
    record? (fields.map Prod.fst) omissible (.object fields) =
      some (fields.map fun field => some field.2) :=
  congrArg some (map_lookupField distinct)

theorem record?_array {names : List String} {values : List Json} (omissible : Nat)
    (complete : names.length = values.length) :
    record? names omissible (.array values) = some (values.map some) := by
  simp [record?, complete]

end Json

open Json

/-! ## Diagnostics -/

theorem Position.ofJson?_toJson {position : Position} (sized : position.Sized) :
    ofJson? position.toJson = some position := by
  have fields : record? ["line", "character"] 0 position.toJson =
      some [some (.nat position.line), some (.nat position.character)] :=
    record?_object 0 (by simp)
  simp [ofJson?, fields, required, nat32?_nat sized.line,
    nat32?_nat sized.character]

theorem Extent.ofJson?_toJson {range : Extent} (start : range.start.Sized)
    (stop : range.stop.Sized) : ofJson? range.toJson = some range := by
  have fields : record? ["start", "end"] 0 range.toJson =
      some [some range.start.toJson, some range.stop.toJson] :=
    record?_object 0 (by simp)
  simp [ofJson?, fields, required, Position.ofJson?_toJson start,
    Position.ofJson?_toJson stop]

theorem CharSpan.ofJson?_toJson {span : CharSpan} (start : span.start < Nat.pow 2 64)
    (stop : span.stop < Nat.pow 2 64) : ofJson? span.toJson = some span := by
  have fields : record? ["start", "end"] 0 span.toJson =
      some [some (.nat span.start), some (.nat span.stop)] :=
    record?_object 0 (by simp)
  simp [ofJson?, fields, required, nat64?_nat start, nat64?_nat stop]

theorem Severity.word?_name (severity : Severity) :
    word? ofName? (.string severity.name) = some severity := by
  cases severity <;> rfl

theorem Pass.word?_name (pass : Pass) :
    word? ofName? (.string pass.name) = some pass := by
  cases pass <;> rfl

theorem Channel.word?_name (channel : Channel) :
    word? ofName? (.string channel.name) = some channel := by
  cases channel <;> rfl

/-- The positions have places in 32 bits and the offsets in 64. -/
structure Diagnostic.Sized (diagnostic : Diagnostic) : Prop where
  start : diagnostic.range.start.Sized
  stop : diagnostic.range.stop.Sized
  first : diagnostic.offsets.start < Nat.pow 2 64
  last : diagnostic.offsets.stop < Nat.pow 2 64

theorem Diagnostic.ofJson?_toJson {diagnostic : Diagnostic}
    (sized : diagnostic.Sized) : ofJson? diagnostic.toJson = some diagnostic := by
  have fields : record? fieldNames 0 diagnostic.toJson =
      some [some diagnostic.range.toJson, some diagnostic.offsets.toJson,
        some (.string diagnostic.severity.name), some (.string diagnostic.message),
        some (.string diagnostic.source.name),
        some (.string diagnostic.channel.name)] :=
    record?_object 0 (by simp)
  simp [ofJson?, fields, required, string?,
    Extent.ofJson?_toJson sized.start sized.stop,
    CharSpan.ofJson?_toJson sized.first sized.last, Severity.word?_name,
    Pass.word?_name, Channel.word?_name]

/-! ## Links -/

/-- The place in the text fits into 64 bits, and what there is of the target
into 32. -/
structure Link.Sized (link : Link) : Prop where
  startIndex : link.startIndex < Nat.pow 2 64
  length : link.length < Nat.pow 2 64
  line : ∀ line ∈ link.line, line < Nat.pow 2 32
  column : ∀ column ∈ link.column, column < Nat.pow 2 32

theorem Link.record?_toJson (link : Link) :
    record? fieldNames 2 link.toJson =
      some [some (.nat link.startIndex), some (.nat link.length),
        some (.string link.tooltip), some (.string link.filePath),
        link.line.map .nat, link.column.map .nat] := by
  obtain ⟨startIndex, length, tooltip, filePath, line, column⟩ := link
  -- Which fields are there depends only on the two that may be left out.
  cases line <;> cases column <;> simp [toJson, record?, fieldNames, lookupField]

theorem Link.ofJson?_toJson {link : Link} (sized : link.Sized) :
    ofJson? link.toJson = some link := by
  have line : optional nat32? (link.line.map .nat) = some link.line :=
    optional_map (fun line given => nat32?_nat (sized.line line given))
      fun _ => rfl
  have column : optional nat32? (link.column.map .nat) = some link.column :=
    optional_map (fun column given => nat32?_nat (sized.column column given))
      fun _ => rfl
  simp [ofJson?, record?_toJson, required, string?, nat64?_nat sized.startIndex,
    nat64?_nat sized.length, line, column]

/-! ## Settings -/

/-- The exit code, if there is one, fits into 32 bits with its sign. -/
def Settings.Sized (settings : Settings) : Prop :=
  ∀ code ∈ settings.syntaxErrorCode,
    -(Nat.pow 2 31 : Int) ≤ code ∧ code < Nat.pow 2 31

namespace Settings

variable {settings : Settings}

/-- The fields of the settings are read in whatever form the record has. -/
theorem ofSection?_of_record? (sized : settings.Sized) {value : Json}
    (fields : record? fieldNames 0 value = some (settings.toFields.map some)) :
    ofSection? value = some settings := by
  have text (content : Option String) :
      optional string? (some (ofOption .string content)) = some content :=
    optional_ofOption (fun _ _ => rfl) fun _ => rfl
  have texts (content : Option (List String)) :
      optional (listOf? string?) (some (ofOption ofTexts content)) = some content :=
    optional_ofOption (fun texts _ => listOf?_ofTexts texts) fun _ => rfl
  have code : optional int32? (some (ofOption .int settings.syntaxErrorCode)) =
      some settings.syntaxErrorCode :=
    optional_ofOption
      (fun code given => int32?_int (sized code given).1 (sized code given).2)
      fun _ => rfl
  have checkArguments := texts settings.checkArguments
  have runArguments := texts settings.runArguments
  unfold ofTexts at checkArguments runArguments
  simp [ofSection?, fields, toFields, text, code, checkArguments, runArguments]

/-- Anything but the wrapper itself is read the same with the wrapper around
it. -/
theorem ofJson?_wrapped {value : Json} (bare : value.field? sectionName = none) :
    ofJson? (.object [(sectionName, value)]) = ofJson? value := by
  have inside : unwrap (.object [(sectionName, value)]) = value := by
    simp [unwrap, field?, lookupField]
  have same : unwrap value = value := by
    rw [unwrap, bare, Option.getD_none]
  rw [ofJson?, ofJson?, inside, same]

theorem ofJson?_bare {value : Json} (bare : value.field? sectionName = none)
    (telling : value.isNull = false) : ofJson? value = ofSection? value := by
  simp [ofJson?, unwrap, bare, telling]

theorem field?_toJson_sectionName (settings : Settings) :
    settings.toJson.field? sectionName = none := by
  simp [toJson, field?, fieldNames, toFields, lookupField, sectionName]

theorem ofJson?_toJson (sized : settings.Sized) :
    ofJson? settings.toJson = some settings := by
  have distinct : ((fieldNames.zip settings.toFields).map Prod.fst).Nodup := by
    simp [fieldNames, toFields]
  rw [ofJson?_bare (field?_toJson_sectionName settings) rfl]
  exact ofSection?_of_record? sized (record?_object 0 distinct)

theorem ofJson?_array (sized : settings.Sized) :
    ofJson? (.array settings.toFields) = some settings := by
  rw [ofJson?_bare rfl rfl]
  exact ofSection?_of_record? sized (record?_array 0 rfl)

end Settings

/-! ## All written values -/

/-- Links, diagnostics and settings are read back from what is written of them,
settings also with the wrapper around them and as a plain list of fields; and
the wrapper changes nothing about any value that is not wrapped already. -/
theorem readBack_written :
    (∀ link : Link, link.Sized → Link.ofJson? link.toJson = some link) ∧
    (∀ diagnostic : Diagnostic, diagnostic.Sized →
      Diagnostic.ofJson? diagnostic.toJson = some diagnostic) ∧
    (∀ settings : Settings, settings.Sized →
      Settings.ofJson? settings.toJson = some settings ∧
      Settings.ofJson? (.object [(Settings.sectionName, settings.toJson)]) =
        some settings ∧
      Settings.ofJson? (.array settings.toFields) = some settings) ∧
    ∀ value : Json, value.field? Settings.sectionName = none →
      Settings.ofJson? (.object [(Settings.sectionName, value)]) =
        Settings.ofJson? value := by
  refine ⟨fun link => Link.ofJson?_toJson,
    fun diagnostic => Diagnostic.ofJson?_toJson, ?_,
    fun value => Settings.ofJson?_wrapped⟩
  intro settings sized
  have bare := Settings.field?_toJson_sectionName settings
  refine ⟨Settings.ofJson?_toJson sized, ?_, Settings.ofJson?_array sized⟩
  rw [Settings.ofJson?_wrapped bare]
  exact Settings.ofJson?_toJson sized

/-- The greatest column without a line, a diagnostic at the last position, the
least exit code with an empty list of arguments, and a number in place of
settings. -/
theorem readBack_extremes :
    (let link : Link :=
      ⟨Nat.pow 2 64 - 1, 0, "", "a.frg", none, some (Nat.pow 2 32 - 1)⟩
     Link.ofJson? link.toJson = some link) ∧
    (let last : Position := ⟨Nat.pow 2 32 - 1, 0⟩
     let diagnostic : Diagnostic :=
      ⟨⟨last, last⟩, ⟨0, Nat.pow 2 64 - 1⟩, .warning, "", .runner, .check⟩
     Diagnostic.ofJson? diagnostic.toJson = some diagnostic) ∧
    (let settings : Settings :=
      { syntaxErrorCode := some (-Nat.pow 2 31), runArguments := some [] }
     Settings.ofJson? (.array settings.toFields) = some settings) ∧
    Settings.ofJson? (.object [(Settings.sectionName, .nat 5)]) =
      Settings.ofJson? (.nat 5) := by
  obtain ⟨links, diagnostics, settings, wrapped⟩ := readBack_written
  refine ⟨links _ ?_, diagnostics _ ?_, (settings _ ?_).2.2, wrapped _ rfl⟩
  · exact ⟨by decide, by decide, by simp, by simp⟩
  · exact ⟨⟨by decide, by decide⟩, ⟨by decide, by decide⟩, by decide, by decide⟩
  · intro code given
    cases given
    decide

end ToolBridge
