import RouteAudit.Event.Encoder
import RouteAudit.Proofs.EventReading

/-!
# Writing documents and reading them back

The files that documents can tell of are those whose events are well-formed: a router has one of the
frameworks that have a name, and is imported under a name that is not empty. These are the files
that are read back from the document that spells them out, and all files that are read from any
document are among them.
-/

namespace RouteAudit

/-- A document can tell of an event: a framework is one of those that have a name, and the local
name of an import is not empty unless the imported name is. -/
def Event.WellFormed : Event → Prop
  | routerCreated _ _ framework => framework ∈ frameworkNames
  | routerImported importedName localName _ => localName ≠ "" ∨ localName = importedName
  | _ => True

/-- Whether an event is well-formed can be tested. -/
instance : (event : Event) → Decidable event.WellFormed
  | .routerCreated _ _ framework => inferInstanceAs (Decidable (framework ∈ frameworkNames))
  | .routerImported importedName localName _ =>
      inferInstanceAs (Decidable (localName ≠ "" ∨ localName = importedName))
  | .mountAttempted _ _ | .routerExported _ | .routeRegistered _ =>
      inferInstanceAs (Decidable True)

/-- A document can tell of all events of a file. -/
def SourceFile.WellFormed (file : SourceFile) : Prop :=
  ∀ event ∈ file.events, event.WellFormed

/-- Whether a file is well-formed can be tested. -/
instance (file : SourceFile) : Decidable file.WellFormed :=
  inferInstanceAs (Decidable (∀ event ∈ file.events, event.WellFormed))

namespace Event

/-! ## Reading what was written -/

/-- A callee is read back. -/
theorem readCallee_toJson (callee : Callee) : readCallee (some callee.toJson) = .ok callee := by
  obtain ⟨name, receiver⟩ := callee
  cases receiver <;> rfl

/-- An argument is read back. -/
theorem readArgument_toJson (argument : Argument) : readArgument argument.toJson = .ok argument := by
  obtain ⟨kind, value, interpolated⟩ := argument
  cases kind <;> cases value <;> rfl

/-- The arguments of a call are read back. -/
theorem mapM_readArgument_toJson (arguments : List Argument) :
    (arguments.map Argument.toJson).mapM readArgument = .ok arguments := by
  rw [mapM_eq_ok_iff, List.forall₂_map_left_iff, List.forall₂_same]
  intro argument _
  exact readArgument_toJson argument

/-- The name of a framework is chosen. -/
theorem oneOf_framework {name : String} (h : name ∈ frameworkNames) :
    oneOf framework? .unknownFramework (.string name) = .ok name := by
  simp only [oneOf, Json.compound?, framework?, if_pos h]

/-- A well-formed event is read back. -/
theorem read_toJson {event : Event} (h : event.WellFormed) : read event.toJson = .ok event := by
  cases event with
  | routerCreated identifier callee framework =>
    have hframework := oneOf_framework h
    have hcallee := readCallee_toJson callee
    simp [read, toJson, readRouterCreated, requireText, List.lookup_cons, hframework, hcallee, bind,
      Except.bind, pure, Except.pure]
  | mountAttempted callee arguments =>
    have hcallee := readCallee_toJson callee
    have harguments := mapM_readArgument_toJson arguments
    simp [read, toJson, readMountAttempted, List.lookup_cons, hcallee, harguments, bind,
      Except.bind, pure, Except.pure]
  | routerExported identifier => rfl
  | routerImported importedName localName source =>
    have hname : (if localName = "" then importedName else localName) = localName := by
      rcases h with hne | rfl
      · rw [if_neg hne]
      · rw [ite_self]
    simp [read, toJson, readRouterImported, requireText, optionalText, List.lookup_cons, hname, bind,
      Except.bind, pure, Except.pure]
  | routeRegistered registration =>
    obtain ⟨method, path, line, column, router⟩ := registration
    cases router <;> simp [read, toJson, readRouteRegistered, requireText, optionalText,
      List.lookup_cons, Json.ofOptionalText, bind, Except.bind, pure, Except.pure]

/-! ## What is read from any document -/

/-- One of several names is chosen exactly where it is given. -/
theorem oneOf_eq_ok_iff {α : Type} {find : String → Option α} {unknown : Json → Defect}
    {given : Json} {found : α} :
    oneOf find unknown given = .ok found ↔ ∃ name, given = .string name ∧ find name = some found := by
  cases given with
  | string name => cases hfound : find name <;> simp [oneOf, Json.compound?, refuse, hfound]
  | _ => simp [oneOf, Json.compound?, refuse]

/-- What is chosen among the frameworks is the name of one. -/
theorem mem_frameworkNames_of_oneOf {unknown : Json → Defect} {given : Json} {found : String}
    (h : oneOf framework? unknown given = .ok found) : found ∈ frameworkNames := by
  obtain ⟨name, -, hname⟩ := oneOf_eq_ok_iff.mp h
  unfold framework? at hname
  split at hname
  · next hmem => rwa [← Option.some.inj hname]
  · cases hname

/-- The import of a router is read with a local name, or with the imported name in its place. -/
theorem wellFormed_of_readRouterImported {fields : Named Json} {event : Event}
    (h : readRouterImported fields = .ok event) : event.WellFormed := by
  simp only [readRouterImported, bind_eq_ok_iff, pure_eq_ok_iff] at h
  obtain ⟨importedName, -, given, -, source, -, rfl⟩ := h
  cases given with
  | none => exact .inr rfl
  | some name =>
    by_cases hname : name = ""
    · exact .inr (if_pos hname)
    · refine .inl ?_
      simp only [if_neg hname]
      exact hname

/-- Every event that is read is well-formed. -/
theorem wellFormed_of_read {item : Json} {event : Event} (h : read item = .ok event) :
    event.WellFormed := by
  unfold read at h
  split at h
  · split at h
    · simp only [readRouterCreated, bind_eq_ok_iff, pure_eq_ok_iff] at h
      obtain ⟨framework, hframework, identifier, -, callee, -, rfl⟩ := h
      exact mem_frameworkNames_of_oneOf hframework
    · unfold readMountAttempted at h
      split at h
      · simp only [bind_eq_ok_iff, pure_eq_ok_iff] at h
        obtain ⟨callee, -, arguments, -, rfl⟩ := h
        trivial
      · cases h
    · simp only [bind_eq_ok_iff, pure_eq_ok_iff] at h
      obtain ⟨identifier, -, rfl⟩ := h
      trivial
    · exact wellFormed_of_readRouterImported h
    · unfold readRouteRegistered at h
      split at h
      · simp only [bind_eq_ok_iff, pure_eq_ok_iff] at h
        obtain ⟨method, -, path, -, router, -, rfl⟩ := h
        trivial
      · cases h
    · cases h
  · cases h

end Event

namespace SourceFile

/-- The entry that spells out a well-formed file stands for it. -/
theorem entryReads_toJson {file : SourceFile} (h : file.WellFormed) :
    EntryReads file.toJson file := by
  refine ⟨_, file.events.map Event.toJson, ⟨rfl, rfl⟩, .inl rfl, ?_⟩
  rw [List.forall₂_map_left_iff, List.forall₂_same]
  intro event hevent
  exact Event.read_toJson (h event hevent)

/-- Every file that an entry stands for is well-formed. -/
theorem wellFormed_of_entryReads {entry : Json} {file : SourceFile} (h : EntryReads entry file) :
    file.WellFormed := by
  obtain ⟨fields, items, -, -, hevents⟩ := h
  exact forall_mem_of_forall₂ hevents fun item _ event hread => Event.wellFormed_of_read hread

/-- Well-formed files are read back from the document that spells them out. -/
theorem readDocument_document {files : List SourceFile} (h : ∀ file ∈ files, file.WellFormed) :
    readDocument (document files) = .ok files := by
  have hfiles : (document files).lookup "files" = some (.array (files.map toJson)) := rfl
  rw [readDocument_of_files hfiles, readFiles_eq_ok_iff, List.forall₂_map_left_iff,
    List.forall₂_same]
  intro file hfile
  exact entryReads_toJson (h file hfile)

/-- All files that are read from a document are well-formed. -/
theorem wellFormed_of_readDocument {fields : Named Json} {files : List SourceFile}
    (h : readDocument fields = .ok files) : ∀ file ∈ files, file.WellFormed := by
  unfold readDocument at h
  split at h
  · have hentries := readFiles_eq_ok_iff.mp h
    exact forall_mem_of_forall₂ hentries fun entry _ file hreads => wellFormed_of_entryReads hreads
  · cases h

/-- **Documents and files.** Exactly the well-formed files are read back from the document that
spells them out. All files that are read from a document are well-formed, so writing them and
reading them again changes nothing, however the document was written. -/
theorem documents_read_back :
    (∀ files : List SourceFile,
      readDocument (document files) = .ok files ↔ ∀ file ∈ files, file.WellFormed) ∧
    ∀ (fields : Named Json) (files : List SourceFile), readDocument fields = .ok files →
      (∀ file ∈ files, file.WellFormed) ∧ readDocument (document files) = .ok files := by
  constructor
  · intro files
    exact ⟨wellFormed_of_readDocument, readDocument_document⟩
  · intro fields files hread
    have hformed := wellFormed_of_readDocument hread
    exact ⟨hformed, readDocument_document hformed⟩

/-- A document that leaves out what has a default: a framework, a local name, a place. -/
def briefDocument : Named Json :=
  [("files", .array [.object [("path", .string "a.js"), ("events", .array [
    .object [("type", .string "router"), ("identifier", .string "r"),
      ("callee", .object [("name", .string "Router")])],
    .object [("type", .string "import"), ("imported", .string "s"), ("local", .string ""),
      ("source", .string "./s")],
    .object [("type", .string "mount"), ("callee", .object [("name", .string "use")]),
      ("arguments", .array [.object [("kind", .string "template"), ("interpolated", .int 2)]])],
    .object [("type", .string "route"), ("method", .string "get"), ("path", .string "/x"),
      ("line", .bool true)]])]])]

/-- The files that this document tells of. -/
def briefFiles : List SourceFile :=
  [{ path := "a.js", events :=
      [.routerCreated "r" { name := "Router" } "generic", .routerImported "s" "s" "./s",
        .mountAttempted { name := "use" } [{ kind := .template, interpolated := true }],
        .routeRegistered { method := "get", path := "/x", line := .truth true }] }]

/-- They are read back from the document that spells out what was left out. -/
theorem documents_read_back_brief :
    readDocument briefDocument = .ok briefFiles ∧ (∀ file ∈ briefFiles, file.WellFormed) ∧
      readDocument (document briefFiles) = .ok briefFiles := by
  have hread : readDocument briefDocument = .ok briefFiles := rfl
  exact ⟨hread, documents_read_back.2 briefDocument briefFiles hread⟩

end SourceFile

end RouteAudit
