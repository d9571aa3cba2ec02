import ToolBridge.Proofs.Location.SourcePath
import ToolBridge.Settings

/-!
# Merging settings

Each payload of an editor sets some fields of the configuration, and some
payloads cannot be read.  What is left of a sequence of them is said field by
field: the last value that was given, where each field has its own rule for what
it takes.
-/

namespace ToolBridge

open ToolBridge.Text

/-! ## The last value -/

/-- The last value that was given, or the first one if none was given. -/
def Latest {α β : Type} (gives : α → β → Prop) (given : List α) (first value : β) :
    Prop :=
  (∃ before payload after, given = before ++ payload :: after ∧
      gives payload value ∧ ∀ later ∈ after, ∀ other, ¬ gives later other) ∨
    value = first ∧ ∀ payload ∈ given, ∀ other, ¬ gives payload other

namespace Latest

variable {α β : Type} {gives : α → β → Prop} {given : List α} {payload : α}
  {first value : β}

theorem nil : Latest gives [] first first :=
  Or.inr ⟨rfl, by simp⟩

theorem give (new : gives payload value) :
    Latest gives (given ++ [payload]) first value :=
  Or.inl ⟨given, payload, [], rfl, new, by simp⟩

theorem pass (latest : Latest gives given first value)
    (silent : ∀ other, ¬ gives payload other) :
    Latest gives (given ++ [payload]) first value := by
  have extended {part : List α} (none : ∀ later ∈ part, ∀ other, ¬ gives later other) :
      ∀ later ∈ part ++ [payload], ∀ other, ¬ gives later other := by
    intro later member
    rcases List.mem_append.mp member with old | last
    · exact none later old
    · rw [List.mem_singleton.mp last]
      exact silent
  rcases latest with ⟨before, last, after, rfl, new, none⟩ | ⟨rfl, none⟩
  · exact Or.inl ⟨before, last, after ++ [payload], by simp, new, extended none⟩
  · exact Or.inr ⟨rfl, extended none⟩

/-- What the first value is and every value that is given, the last one is. -/
theorem holds (property : β → Prop) (latest : Latest gives given first value)
    (initially : property first)
    (each : ∀ {payload value}, gives payload value → property value) :
    property value := by
  rcases latest with ⟨_, _, _, _, new, _⟩ | ⟨rfl, _⟩
  · exact each new
  · exact initially

end Latest

namespace Settings

/-! ## What a payload gives -/

/-- The payload can be read, the field is set in it, and the value comes of what
it is set to. -/
def Gives {α β : Type} (field : Settings → Option α) (allows : α → β → Prop)
    (payload : Json) (value : β) : Prop :=
  ∃ settings supplied, ofJson? payload = some settings ∧
    field settings = some supplied ∧ allows supplied value

/-- A program is taken as it is, unless it is blank. -/
def Callable (supplied value : String) : Prop :=
  value = supplied ∧ ∃ c ∈ value.toList, isBlank c = false

/-- An extension is taken without the dots in front, unless nothing is left. -/
def Undotted (supplied value : String) : Prop :=
  value ≠ "" ∧ value.toList.head? ≠ some '.' ∧
    ∃ dots, supplied.toList = List.replicate dots '.' ++ value.toList

theorem acceptedProgram_eq_some_iff {supplied value : String} :
    acceptedProgram supplied = some value ↔ Callable supplied value := by
  unfold acceptedProgram Callable isBlankText
  cases blank : supplied.toList.all isBlank with
  | true =>
      have all := List.all_eq_true.mp blank
      constructor
      · intro accepted
        cases accepted
      · rintro ⟨rfl, c, member, other⟩
        cases (all c member).symm.trans other
  | false =>
      obtain ⟨c, member, other⟩ := List.all_eq_false.mp blank
      constructor
      · intro accepted
        cases accepted
        exact ⟨rfl, c, member, Bool.eq_false_iff.mpr other⟩
      · rintro ⟨rfl, _⟩
        rfl

theorem acceptedExtension_eq_some_iff {supplied value : String} :
    acceptedExtension supplied = some value ↔ Undotted supplied value := by
  unfold acceptedExtension
  constructor
  · intro accepted
    have whole := List.takeWhile_append_dropWhile (p := (· == '.'))
      (l := supplied.toList)
    have stops := List.head?_dropWhile_not (· == '.') supplied.toList
    cases left : supplied.toList.dropWhile (· == '.') with
    | nil => simp [left] at accepted
    | cons c rest =>
        rw [left] at accepted whole stops
        cases accepted
        refine ⟨by simp, ?_, (supplied.toList.takeWhile (· == '.')).length, ?_⟩
        · rw [String.toList_ofList, List.head?_cons]
          rintro ⟨rfl⟩
          simp at stops
        · have dots : supplied.toList.takeWhile (· == '.') =
              List.replicate (supplied.toList.takeWhile (· == '.')).length '.' := by
            apply List.eq_replicate_of_mem
            intro d member
            exact beq_iff_eq.mp (List.all_eq_true.mp List.all_takeWhile d member)
          rw [String.toList_ofList, ← dots, whole]
  · rintro ⟨telling, opens, dots, split⟩
    have left : supplied.toList.dropWhile (· == '.') = value.toList := by
      rw [split]
      refine (SourcePath.takeWhile_run ?_ ?_).2
      · intro c member
        rw [List.eq_of_mem_replicate member]
        rfl
      · intro c head
        apply beq_eq_false_iff_ne.mpr
        rintro rfl
        exact opens head
    have some : value.toList ≠ [] := by
      intro empty
      exact telling (String.toList_eq_nil_iff.mp empty)
    simp [left, some]

/-! ## What is left of all payloads -/

/-- Every field of the configuration has the last value that was given to it. -/
structure Settled (given : List Json) (config : Config) : Prop where
  program : Latest (Gives Settings.program Callable) given
    Config.standard.program config.program
  extension : Latest (Gives Settings.extension Undotted) given
    Config.standard.extension config.extension
  syntaxErrorCode : Latest (Gives Settings.syntaxErrorCode Eq) given
    Config.standard.syntaxErrorCode config.syntaxErrorCode
  checkArguments : Latest (Gives Settings.checkArguments Eq) given
    Config.standard.checkArguments config.checkArguments
  runArguments : Latest (Gives Settings.runArguments Eq) given
    Config.standard.runArguments config.runArguments
  scratchDirectory :
    Latest (Gives Settings.scratchDirectory (some · = ·)) given
      Config.standard.scratchDirectory config.scratchDirectory

variable {α β : Type} {field : Settings → Option α} {allows : α → β → Prop}
  {given : List Json} {payload : Json}
  {settings : Settings} {config : Config} {first value : β}

/-- A field takes what it accepts and else keeps what it has. -/
theorem latest_of_read (accept : α → Option β)
    (accepts : ∀ {supplied value}, accept supplied = some value ↔ allows supplied value)
    (latest : Latest (Gives field allows) given first value)
    (read : ofJson? payload = some settings) :
    Latest (Gives field allows) (given ++ [payload]) first
      (((field settings).bind accept).getD value) := by
  cases taken : (field settings).bind accept with
  | some new =>
      obtain ⟨supplied, set, accepted⟩ := Option.bind_eq_some_iff.mp taken
      exact .give ⟨settings, supplied, read, set, accepts.mp accepted⟩
  | none =>
      refine latest.pass ?_
      rintro other ⟨same, supplied, again, set, allowed⟩
      cases read.symm.trans again
      rw [set, Option.bind_some, accepts.mpr allowed] at taken
      cases taken

theorem latest_of_unread (latest : Latest (Gives field allows) given first value)
    (unread : ofJson? payload = none) :
    Latest (Gives field allows) (given ++ [payload]) first value := by
  refine latest.pass ?_
  rintro other ⟨settings, supplied, read, _⟩
  cases unread.symm.trans read

theorem settled_nil : Settled [] Config.standard :=
  ⟨.nil, .nil, .nil, .nil, .nil, .nil⟩

theorem Settled.apply (settled : Settled given config)
    (read : ofJson? payload = some settings) :
    Settled (given ++ [payload]) (settings.apply config) := by
  have plain {α : Type} {field : Settings → Option α} {first value : α}
      (latest : Latest (Gives field Eq) given first value) :
      Latest (Gives field Eq) (given ++ [payload]) first
        ((field settings).getD value) := by
    have taken := latest_of_read some (by simp) latest read
    rwa [Option.bind_fun_some] at taken
  refine
    { program := latest_of_read acceptedProgram
        acceptedProgram_eq_some_iff settled.program read
      extension := latest_of_read acceptedExtension
        acceptedExtension_eq_some_iff settled.extension read
      syntaxErrorCode := plain settled.syntaxErrorCode
      checkArguments := plain settled.checkArguments
      runArguments := plain settled.runArguments
      scratchDirectory := ?_ }
  have taken := latest_of_read (fun directory => some (some directory)) (by simp)
    settled.scratchDirectory read
  cases set : settings.scratchDirectory with
  | none => simpa [set, Settings.apply] using taken
  | some directory => simpa [set, Settings.apply] using taken

theorem Settled.ignore (settled : Settled given config)
    (unread : ofJson? payload = none) : Settled (given ++ [payload]) config :=
  ⟨latest_of_unread settled.program unread,
    latest_of_unread settled.extension unread,
    latest_of_unread settled.syntaxErrorCode unread,
    latest_of_unread settled.checkArguments unread,
    latest_of_unread settled.runArguments unread,
    latest_of_unread settled.scratchDirectory unread⟩

end Settings

end ToolBridge
