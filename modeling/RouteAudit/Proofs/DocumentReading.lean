import Mathlib.Data.List.Forall2
import RouteAudit.Event.Decoder

/-!
# Reading documents in order

A document is read entry by entry, and an entry event by event. Whether a place can be read is
decided by this place alone. A document is read as a whole if every place can be, and refused for
the first one that cannot be; what stands behind that one has no part in the refusal.
-/

namespace RouteAudit

/-! ## Reading item by item -/

section InOrder

variable {α β ε : Type}

/-- Items are read exactly if the first one is, and the others are. -/
theorem mapM_cons_eq_ok_iff {read : α → Except ε β} {item : α} {rest : List α} {values : List β} :
    (item :: rest).mapM read = .ok values ↔
      ∃ value others, read item = .ok value ∧ rest.mapM read = .ok others ∧
        values = value :: others := by
  rw [List.mapM_cons]
  cases hone : read item with
  | error fault => simp [bind, Except.bind]
  | ok value =>
    cases hothers : rest.mapM read with
    | error fault => simp [bind, Except.bind]
    | ok others => simp [bind, Except.bind, pure, Except.pure, eq_comm]

/-- Items are refused for the first one, or for a later one if the first one is read. -/
theorem mapM_cons_eq_error_iff {read : α → Except ε β} {item : α} {rest : List α} {fault : ε} :
    (item :: rest).mapM read = .error fault ↔
      read item = .error fault ∨
        ∃ value, read item = .ok value ∧ rest.mapM read = .error fault := by
  rw [List.mapM_cons]
  cases hone : read item with
  | error other => simp [bind, Except.bind]
  | ok value =>
    cases hothers : rest.mapM read with
    | error other => simp [bind, Except.bind]
    | ok others => simp [bind, Except.bind, pure, Except.pure]

/-- A fault that is put in other words is no success. -/
theorem mapError_eq_ok_iff {ε' : Type} {result : Except ε α} {f : ε → ε'} {value : α} :
    result.mapError f = .ok value ↔ result = .ok value := by
  cases result <;> simp [Except.mapError]

/-- A fault that is put in other words is one that was there. -/
theorem mapError_eq_error_iff {ε' : Type} {result : Except ε α} {f : ε → ε'} {fault : ε'} :
    result.mapError f = .error fault ↔ ∃ cause, result = .error cause ∧ fault = f cause := by
  cases result <;> simp [Except.mapError, eq_comm]

variable {read : α × Nat → Except ε β} (Reads : α → β → Prop)

/-- If the position of an item has no part in what it is read as, items are read one after another
exactly if each of them is read as the value at its place. -/
theorem mapM_zipIdx_eq_ok_iff
    (hreads : ∀ item position value, read (item, position) = .ok value ↔ Reads item value)
    {items : List α} {start : Nat} {values : List β} :
    (items.zipIdx start).mapM read = .ok values ↔ List.Forall₂ Reads items values := by
  induction items generalizing start values with
  | nil =>
    rw [List.zipIdx_nil, List.mapM_nil, List.forall₂_nil_left_iff]
    simp [pure, Except.pure, eq_comm]
  | cons item rest ih =>
    rw [List.zipIdx_cons, mapM_cons_eq_ok_iff, List.forall₂_cons_left_iff]
    simp only [hreads, ih]

/-- Items are refused for the first one that cannot be read, whatever stands behind it. -/
theorem mapM_zipIdx_eq_error_iff
    (hreads : ∀ item position value, read (item, position) = .ok value ↔ Reads item value)
    {items : List α} {start : Nat} {fault : ε} :
    (items.zipIdx start).mapM read = .error fault ↔
      ∃ before item behind values, items = before ++ item :: behind ∧
        List.Forall₂ Reads before values ∧ read (item, start + before.length) = .error fault := by
  induction items generalizing start with
  | nil => simp [pure, Except.pure]
  | cons item rest ih =>
    rw [List.zipIdx_cons, mapM_cons_eq_error_iff, ih]
    -- The first item is the one that is refused, or it is read and stands before the one that is.
    constructor
    · rintro (hfirst | ⟨value, hvalue, before, later, behind, values, rfl, hbefore, hlater⟩)
      · exact ⟨[], item, rest, [], rfl, .nil, hfirst⟩
      · refine ⟨item :: before, later, behind, value :: values, rfl, ?_, ?_⟩
        · exact .cons ((hreads item start value).mp hvalue) hbefore
        · rwa [List.length_cons, Nat.add_comm before.length, ← Nat.add_assoc]
    · rintro ⟨before, later, behind, values, hitems, hbefore, hlater⟩
      cases hbefore with
      | nil =>
        obtain ⟨rfl, rfl⟩ := List.cons.inj hitems
        exact .inl hlater
      | @cons head value before values hhead hbefore =>
        obtain ⟨rfl, rfl⟩ := List.cons.inj hitems
        rw [List.length_cons, Nat.add_comm before.length, ← Nat.add_assoc] at hlater
        exact .inr ⟨value, (hreads _ _ _).mpr hhead, before, later, behind, values, rfl, hbefore,
          hlater⟩

/-- There are values for all items exactly if there is one for each. -/
theorem exists_forall₂_iff {items : List α} :
    (∃ values, List.Forall₂ Reads items values) ↔ ∀ item ∈ items, ∃ value, Reads item value := by
  induction items with
  | nil => simp
  | cons item rest ih =>
    rw [List.forall_mem_cons, ← ih]
    constructor
    · rintro ⟨values, hall⟩
      cases hall with
      | cons hvalue hothers => exact ⟨⟨_, hvalue⟩, ⟨_, hothers⟩⟩
    · rintro ⟨⟨value, hvalue⟩, ⟨values, hothers⟩⟩
      exact ⟨value :: values, .cons hvalue hothers⟩

variable {Reads} in
/-- What holds of every value that an item is read as holds of all values that are read. -/
theorem forall_mem_of_forall₂ {Good : β → Prop} {items : List α} {values : List β}
    (hread : List.Forall₂ Reads items values)
    (hgood : ∀ item ∈ items, ∀ value, Reads item value → Good value) :
    ∀ value ∈ values, Good value := by
  induction hread with
  | nil => exact List.forall_mem_nil _
  | cons hfirst _ ih =>
    obtain ⟨hone, hrest⟩ := List.forall_mem_cons.mp hgood
    exact List.forall_mem_cons.mpr ⟨hone _ hfirst, ih hrest⟩

end InOrder

/-! ## Entries for files -/

/-- An entry is an object with given fields, and a path among these. -/
def HasPath (entry : Json) (fields : Named Json) (path : String) : Prop :=
  entry = .object fields ∧ fields.lookup "path" = some (.string path)

/-- The items that stand for the events of an entry: those of its list, or none. -/
def EventItems (fields : Named Json) (items : List Json) : Prop :=
  fields.lookup "events" = some (.array items) ∨ fields.lookup "events" = none ∧ items = []

/-- An item decodes to an event, by itself. -/
def EventReads (item : Json) (event : Event) : Prop :=
  Event.read item = .ok event

/-- An entry stands for a file: it is an object with the path, and each of its items decodes to the
event at its place. -/
def EntryReads (entry : Json) (file : SourceFile) : Prop :=
  ∃ fields items, HasPath entry fields file.path ∧ EventItems fields items ∧
    List.Forall₂ EventReads items file.events

/-- An entry at a position stands for no file, and why. -/
inductive EntryFails (position : Nat) (entry : Json) : DocumentFault → Prop where
  /-- It is no object with a path. -/
  | path (h : ¬∃ fields path, HasPath entry fields path) :
      EntryFails position entry (.defect none none (.pathMissing position))
  /-- It has something else than a list for its events. -/
  | events {fields : Named Json} {path : String} (hpath : HasPath entry fields path)
      (hevents : ¬∃ items, EventItems fields items) :
      EntryFails position entry (.defect (some path) none .eventsNoList)
  /-- One of its items has a defect, and those before it decode. -/
  | event {fields : Named Json} {path : String} {before behind : List Json} {item : Json}
      {events : List Event} {cause : Defect} (hpath : HasPath entry fields path)
      (hitems : EventItems fields (before ++ item :: behind))
      (hbefore : List.Forall₂ EventReads before events)
      (hitem : Event.read item = .error (.defect cause)) :
      EntryFails position entry (.defect (some path) (some before.length) cause)
  /-- One of its items has a list or an object for a name, and those before it decode. -/
  | compound {fields : Named Json} {path : String} {before behind : List Json} {item : Json}
      {events : List Event} {kind : Compound} (hpath : HasPath entry fields path)
      (hitems : EventItems fields (before ++ item :: behind))
      (hbefore : List.Forall₂ EventReads before events)
      (hitem : Event.read item = .error (.compound kind)) :
      EntryFails position entry (.compound kind)

/-- The items that reading an entry finds are those that stand for its events. -/
theorem eventItems_iff {fields : Named Json} {items : List Json} :
    EventItems fields items ↔ (fields.lookup "events").getD (.array []) = .array items := by
  unfold EventItems
  cases fields.lookup "events" with
  | none => simp [eq_comm]
  | some given => simp

namespace SourceFile

/-- The events of a file are read exactly if each of its items decodes. -/
theorem readEvents_eq_ok_iff {path : String} {items : List Json} {events : List Event} :
    readEvents path items = .ok events ↔ List.Forall₂ EventReads items events :=
  mapM_zipIdx_eq_ok_iff EventReads fun _ _ _ => mapError_eq_ok_iff

/-- The events of a file are refused for the first item that does not decode, at its place. -/
theorem readEvents_eq_error_iff {path : String} {items : List Json} {fault : DocumentFault} :
    readEvents path items = .error fault ↔
      ∃ before item behind events, items = before ++ item :: behind ∧
        List.Forall₂ EventReads before events ∧
        ∃ cause, Event.read item = .error cause ∧ fault = cause.inFile path before.length := by
  rw [readEvents, mapM_zipIdx_eq_error_iff EventReads]
  case hreads =>
    intro item index event
    exact mapError_eq_ok_iff
  simp only [mapError_eq_error_iff, Nat.zero_add]

/-- The events of a file are refused for an item that does not decode behind others that do. -/
theorem readEvents_of_fault {path : String} {before behind : List Json} {item : Json}
    {events : List Event} {cause : EventFault} (hbefore : List.Forall₂ EventReads before events)
    (hitem : Event.read item = .error cause) :
    readEvents path (before ++ item :: behind) = .error (cause.inFile path before.length) :=
  readEvents_eq_error_iff.mpr ⟨before, item, behind, events, rfl, hbefore, cause, hitem, rfl⟩

variable {position : Nat} {entry : Json} {fields : Named Json} {path : String}

/-- An entry without a path is refused for that. -/
theorem readEntry_of_no_path (h : ¬∃ fields path, HasPath entry fields path) :
    readEntry position entry = .error (.defect none none (.pathMissing position)) := by
  cases entry with
  | object fields =>
    cases hlookup : fields.lookup "path" with
    | none => simp only [readEntry, hlookup]
    | some given =>
      cases given with
      | string path => exact absurd ⟨fields, path, rfl, hlookup⟩ h
      | _ => simp only [readEntry, hlookup]
  | _ => rfl

/-- An entry with a path and something else than a list for its events is refused for that. -/
theorem readEntry_of_no_items (hpath : HasPath entry fields path)
    (h : ¬∃ items, EventItems fields items) :
    readEntry position entry = .error (.defect (some path) none .eventsNoList) := by
  obtain ⟨rfl, hlookup⟩ := hpath
  unfold readEntry
  simp only [hlookup]
  split
  · next items hitems => exact absurd ⟨items, eventItems_iff.mpr hitems⟩ h
  · rfl

/-- An entry with a path and items is read as its items are. -/
theorem readEntry_of_items (hpath : HasPath entry fields path) {items : List Json}
    (hitems : EventItems fields items) :
    readEntry position entry = (readEvents path items).map (SourceFile.mk path) := by
  obtain ⟨rfl, hlookup⟩ := hpath
  unfold readEntry
  simp only [hlookup, eventItems_iff.mp hitems]
  cases readEvents path items <;> rfl

/-- An entry has no path, or a path and something else than a list for its events, or a path and
items. -/
theorem entry_cases (entry : Json) :
    (¬∃ fields path, HasPath entry fields path) ∨
      (∃ fields path, HasPath entry fields path ∧ ¬∃ items, EventItems fields items) ∨
      ∃ fields path items, HasPath entry fields path ∧ EventItems fields items := by
  by_cases hpath : ∃ fields path, HasPath entry fields path
  · obtain ⟨fields, path, hpath⟩ := hpath
    by_cases hitems : ∃ items, EventItems fields items
    · obtain ⟨items, hitems⟩ := hitems
      exact .inr (.inr ⟨fields, path, items, hpath, hitems⟩)
    · exact .inr (.inl ⟨fields, path, hpath, hitems⟩)
  · exact .inl hpath

/-- An entry is read exactly as the file that it stands for, at any position. -/
theorem readEntry_eq_ok_iff {file : SourceFile} :
    readEntry position entry = .ok file ↔ EntryReads entry file := by
  constructor
  · intro hok
    rcases entry_cases entry with hpath | ⟨fields, path, hpath, hnone⟩ |
      ⟨fields, path, items, hpath, hitems⟩
    · rw [readEntry_of_no_path hpath] at hok
      cases hok
    · rw [readEntry_of_no_items hpath hnone] at hok
      cases hok
    · rw [readEntry_of_items hpath hitems] at hok
      cases hevents : readEvents path items with
      | error fault => simp [hevents, Except.map] at hok
      | ok events =>
        obtain rfl : SourceFile.mk path events = file := by simpa [hevents, Except.map] using hok
        exact ⟨fields, items, hpath, hitems, readEvents_eq_ok_iff.mp hevents⟩
  · rintro ⟨fields, items, hpath, hitems, hevents⟩
    rw [readEntry_of_items hpath hitems, readEvents_eq_ok_iff.mpr hevents]
    rfl

/-- An entry is refused exactly for why it stands for no file. -/
theorem readEntry_eq_error_iff {fault : DocumentFault} :
    readEntry position entry = .error fault ↔ EntryFails position entry fault := by
  constructor
  · intro herror
    rcases entry_cases entry with hpath | ⟨fields, path, hpath, hnone⟩ |
      ⟨fields, path, items, hpath, hitems⟩
    · rw [readEntry_of_no_path hpath] at herror
      obtain rfl := Except.error.inj herror
      exact .path hpath
    · rw [readEntry_of_no_items hpath hnone] at herror
      obtain rfl := Except.error.inj herror
      exact .events hpath hnone
    · rw [readEntry_of_items hpath hitems] at herror
      cases hevents : readEvents path items with
      | ok events => simp [hevents, Except.map] at herror
      | error first =>
        obtain rfl : first = fault := by simpa [hevents, Except.map] using herror
        obtain ⟨before, item, behind, events, rfl, hbefore, cause, hitem, rfl⟩ :=
          readEvents_eq_error_iff.mp hevents
        cases cause with
        | defect cause => exact .event hpath hitems hbefore hitem
        | compound kind => exact .compound hpath hitems hbefore hitem
  · intro hfails
    cases hfails with
    | path hpath => exact readEntry_of_no_path hpath
    | events hpath hitems => exact readEntry_of_no_items hpath hitems
    | event hpath hitems hbefore hitem =>
      rw [readEntry_of_items hpath hitems, readEvents_of_fault hbefore hitem]
      rfl
    | compound hpath hitems hbefore hitem =>
      rw [readEntry_of_items hpath hitems, readEvents_of_fault hbefore hitem]
      rfl

/-! ## Documents -/

variable {entries : List Json}

/-- A document with a list of files is read as this list is. -/
theorem readDocument_of_files (hfiles : fields.lookup "files" = some (.array entries)) :
    readDocument fields = readFiles entries := by
  simp only [readDocument, hfiles]

/-- A list of files is read exactly if each of its entries stands for the file at its place. -/
theorem readFiles_eq_ok_iff {files : List SourceFile} :
    readFiles entries = .ok files ↔ List.Forall₂ EntryReads entries files :=
  mapM_zipIdx_eq_ok_iff EntryReads fun _ _ _ => readEntry_eq_ok_iff

/-- A list of files is refused for the first entry that stands for no file. -/
theorem readFiles_eq_error_iff {fault : DocumentFault} :
    readFiles entries = .error fault ↔
      ∃ before entry behind files, entries = before ++ entry :: behind ∧
        List.Forall₂ EntryReads before files ∧ EntryFails before.length entry fault := by
  rw [readFiles, mapM_zipIdx_eq_error_iff EntryReads]
  case hreads =>
    intro entry position file
    exact readEntry_eq_ok_iff
  simp only [readEntry_eq_error_iff, Nat.zero_add]

/-- How a document with given entries is read. -/
structure ReadInOrder (fields : Named Json) (entries : List Json) : Prop where
  /-- The document is read as the files that its entries stand for, in order. -/
  ok_iff : ∀ files, readDocument fields = .ok files ↔ List.Forall₂ EntryReads entries files
  /-- It is read exactly if every entry stands for a file. -/
  succeeds_iff : (∃ files, readDocument fields = .ok files) ↔
    ∀ entry ∈ entries, ∃ file, EntryReads entry file
  /-- It is refused for the first entry that stands for no file, whatever is behind this. -/
  error_iff : ∀ fault, readDocument fields = .error fault ↔
    ∃ before entry behind files, entries = before ++ entry :: behind ∧
      List.Forall₂ EntryReads before files ∧ EntryFails before.length entry fault
  /-- If two documents are read whose entries follow one another in this one, so are the files. -/
  append : ∀ {first second : Named Json} {firstEntries secondEntries : List Json},
    entries = firstEntries ++ secondEntries →
    first.lookup "files" = some (.array firstEntries) →
    second.lookup "files" = some (.array secondEntries) →
    ∀ {files others}, readDocument first = .ok files → readDocument second = .ok others →
      readDocument fields = .ok (files ++ others)
  /-- If a document is refused whose entries stand in front of others, so is this one, alike. -/
  refused : ∀ {first : Named Json} {firstEntries others : List Json},
    entries = firstEntries ++ others → first.lookup "files" = some (.array firstEntries) →
    ∀ {fault}, readDocument first = .error fault → readDocument fields = .error fault

/-- **Reading documents.** A document with a list of files is read as a whole or refused at the
first place that cannot be read by itself: entry by entry, and in an entry for its path, for its
list of events and for its events in order. What is read is one file for each entry and one event
for each item, in the order of the document. An event that is refused for a defect is named by the
path of its file and by its index. -/
theorem readDocument_in_order (fields : Named Json) (entries : List Json)
    (hfiles : fields.lookup "files" = some (.array entries)) : ReadInOrder fields entries := by
  have hread := readDocument_of_files hfiles
  constructor
  case ok_iff =>
    intro files
    rw [hread, readFiles_eq_ok_iff]
  case succeeds_iff =>
    simp only [hread, readFiles_eq_ok_iff, exists_forall₂_iff]
  case error_iff =>
    intro fault
    rw [hread, readFiles_eq_error_iff]
  case append =>
    rintro first second firstEntries secondEntries rfl hfirst hsecond files others hone htwo
    rw [readDocument_of_files hfirst, readFiles_eq_ok_iff] at hone
    rw [readDocument_of_files hsecond, readFiles_eq_ok_iff] at htwo
    rw [hread, readFiles_eq_ok_iff]
    exact List.rel_append hone htwo
  case refused =>
    rintro first firstEntries others rfl hfirst fault hone
    rw [readDocument_of_files hfirst, readFiles_eq_error_iff] at hone
    obtain ⟨before, entry, behind, files, rfl, hbefore, hfails⟩ := hone
    rw [hread, readFiles_eq_error_iff]
    exact ⟨before, entry, behind ++ others, files, by simp, hbefore, hfails⟩

/-- Three entries: the second one has an item of no known type, and the third one is no object. -/
def secondEntryFlawed : List Json :=
  [.object [("path", .string "a.js")],
    .object [("path", .string "b.js"),
      ("events", .array [.object [("type", .string "export"), ("identifier", .string "r")],
        .object [("type", .string "nope")]])],
    .null]

/-- A document with these entries is refused for the second item of the second one. -/
theorem readDocument_in_order_secondEntryFlawed :
    List.lookup "files" [("files", Json.array secondEntryFlawed)] =
        some (.array secondEntryFlawed) ∧
      ReadInOrder [("files", .array secondEntryFlawed)] secondEntryFlawed ∧
      readDocument [("files", .array secondEntryFlawed)] =
        .error (.defect (some "b.js") (some 1) (.unknownType (.string "nope"))) :=
  ⟨rfl, readDocument_in_order [("files", .array secondEntryFlawed)] secondEntryFlawed rfl, rfl⟩

end SourceFile

end RouteAudit
