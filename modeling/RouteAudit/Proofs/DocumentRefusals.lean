import RouteAudit.Event.Refusal
import RouteAudit.Proofs.EventReading

/-!
# Where documents are refused

A document is read, or refused for a defect; and a defect of an event is reported with the path of
its file and with its index. Two kinds of events escape this rule. Where a list or an object stands
for the framework of a router or for the form of an argument, reading fails without a word on the
place; and so it does where the value that the defect is about cannot be shown.
-/

namespace RouteAudit

open Event (Misnames read_eq_compound_iff)

/-- The first place of a document that cannot be read is an event: the item at an index in the entry
for the file at a path. -/
inductive FlawedAt (document : Named Json) (path : String) (item : Json) : Nat → Prop where
  | intro {entries others before behind : List Json} {entry : Json} {fields : Named Json}
      {files : List SourceFile} {events : List Event}
      (hfiles : document.lookup "files" = some (.array (entries ++ entry :: others)))
      (hentries : List.Forall₂ EntryReads entries files)
      (hpath : HasPath entry fields path)
      (hitems : EventItems fields (before ++ item :: behind))
      (hbefore : List.Forall₂ EventReads before events)
      (hitem : ¬∃ event, EventReads item event) : FlawedAt document path item before.length

/-- What cannot be read is no event. -/
theorem not_exists_eventReads {item : Json} {fault : EventFault}
    (h : Event.read item = .error fault) : ¬∃ event, EventReads item event := by
  rintro ⟨event, hread⟩
  rw [EventReads, h] at hread
  cases hread

namespace SourceFile

variable {document : Named Json} {path : String} {item : Json} {index : Nat}

/-- A document is refused for the fault of its first flawed event, at the place of this event. -/
theorem readDocument_of_flawedAt (h : FlawedAt document path item index) :
    ∃ fault, Event.read item = .error fault ∧
      readDocument document = .error (fault.inFile path index) := by
  obtain ⟨hfiles, hentries, hpath, hitems, hbefore, hitem⟩ := h
  cases hread : Event.read item with
  | ok event => exact absurd ⟨event, hread⟩ hitem
  | error fault =>
    refine ⟨fault, rfl, ?_⟩
    rw [readDocument_of_files hfiles, readFiles_eq_error_iff]
    refine ⟨_, _, _, _, rfl, hentries, ?_⟩
    cases fault with
    | defect cause => exact .event hpath hitems hbefore hread
    | compound kind => exact .compound hpath hitems hbefore hread

/-- A document that is refused is so for its first flawed event, or for a defect that is not in an
event and shows no value. -/
theorem flawedAt_of_readDocument {fault : DocumentFault}
    (hfault : readDocument document = .error fault) :
    (∃ path item index cause, FlawedAt document path item index ∧
        Event.read item = .error cause ∧ fault = cause.inFile path index) ∨
      ∃ file cause, fault = .defect file none cause ∧ cause.given? = none := by
  unfold readDocument at hfault
  split at hfault
  · next items hfiles =>
    obtain ⟨before, entry, behind, files, rfl, hentries, hfails⟩ :=
      readFiles_eq_error_iff.mp hfault
    cases hfails with
    | path => exact .inr ⟨_, _, rfl, rfl⟩
    | events => exact .inr ⟨_, _, rfl, rfl⟩
    | event hpath hitems hbefore hitem | compound hpath hitems hbefore hitem =>
      have hflaw := not_exists_eventReads hitem
      exact .inl ⟨_, _, _, _, .intro hfiles hentries hpath hitems hbefore hflaw, hitem, rfl⟩
  · exact .inr ⟨none, _, (Except.error.inj hfault).symm, rfl⟩

/-- Reading fails on a list or an object exactly if the first flaw of the document is an event that
misnames something. -/
theorem readDocument_eq_compound_iff {kind : Compound} :
    readDocument document = .error (.compound kind) ↔
      ∃ path item index, FlawedAt document path item index ∧ Misnames kind item := by
  constructor
  · intro hread
    rcases flawedAt_of_readDocument hread with
      ⟨path, item, index, fault, hflaw, hitem, hplace⟩ | ⟨file, cause, hplace, -⟩
    · cases fault with
      | defect cause => cases hplace
      | compound other =>
        obtain rfl := DocumentFault.compound.inj hplace
        exact ⟨path, item, index, hflaw, read_eq_compound_iff.mp hitem⟩
    · cases hplace
  · rintro ⟨path, item, index, hflaw, hmisnames⟩
    obtain ⟨fault, hitem, hread⟩ := readDocument_of_flawedAt hflaw
    rw [read_eq_compound_iff.mpr hmisnames] at hitem
    obtain rfl := Except.error.inj hitem
    exact hread

end SourceFile

/-! ## What is raised -/

namespace Event

/-- An item has a defect, and the value that this is about cannot be shown. -/
def Unshown (machine : Machine) (fault : ShowFault) (item : Json) : Prop :=
  ∃ cause, read item = .error (.defect cause) ∧ cause.showFault? machine = some fault

end Event

open Event (Unshown)

namespace DocumentFault

variable {machine : Machine} {fault : DocumentFault}

/-- A defect is raised if it can be shown. -/
theorem raise_of_showFault? {cause : Defect} (h : cause.showFault? machine = none)
    (file : Option String) (index : Option Nat) :
    (defect file index cause).raise machine = .defect file index cause := by
  simp only [raise, h]

/-- A list or an object is what is raised exactly if it is the fault. -/
theorem raise_eq_compound_iff {kind : Compound} :
    fault.raise machine = .compound kind ↔ fault = .compound kind := by
  cases fault with
  | defect file index cause => cases hshow : cause.showFault? machine <;> simp [raise, hshow]
  | compound other => simp [raise]

/-- A defect is what is raised exactly if it is the fault and can be shown. -/
theorem raise_eq_defect_iff {file : Option String} {index : Option Nat} {cause : Defect} :
    fault.raise machine = .defect file index cause ↔
      fault = .defect file index cause ∧ cause.showFault? machine = none := by
  cases fault with
  | defect file' index' cause' =>
    cases hshow : cause'.showFault? machine with
    | none =>
      simp only [raise, hshow, DocumentRefusal.defect.injEq, defect.injEq]
      refine ⟨fun h => ⟨h, ?_⟩, And.left⟩
      obtain ⟨-, -, rfl⟩ := h
      exact hshow
    | some shown =>
      simp only [raise, hshow, defect.injEq, reduceCtorEq, false_iff]
      rintro ⟨⟨-, -, rfl⟩, hnone⟩
      rw [hshow] at hnone
      cases hnone
  | compound other => simp [raise]

/-- That a value cannot be shown is raised exactly for a defect that is about such a value. -/
theorem raise_eq_unshown_iff {shown : ShowFault} :
    fault.raise machine = .unshown shown ↔
      ∃ file index cause, fault = .defect file index cause ∧
        cause.showFault? machine = some shown := by
  cases fault with
  | defect file index cause => cases hshow : cause.showFault? machine <;> simp [raise, hshow]
  | compound other => simp [raise]

end DocumentFault

namespace SourceFile

variable {machine : Machine} {document : Named Json} {path : String} {item : Json} {index : Nat}

/-- A document raises what its fault raises. -/
theorem ofDocument_eq_error_iff {refusal : DocumentRefusal} :
    ofDocument machine document = .error refusal ↔
      ∃ fault, readDocument document = .error fault ∧ refusal = fault.raise machine :=
  mapError_eq_error_iff

/-- A document is read with and without the limits of a machine. -/
theorem ofDocument_eq_ok_iff {files : List SourceFile} :
    ofDocument machine document = .ok files ↔ readDocument document = .ok files :=
  mapError_eq_ok_iff

/-- A list or an object is raised exactly if the first flaw of the document is an event that
misnames something. -/
theorem ofDocument_eq_compound_iff {kind : Compound} :
    ofDocument machine document = .error (.compound kind) ↔
      ∃ path item index, FlawedAt document path item index ∧ Misnames kind item := by
  rw [ofDocument_eq_error_iff, ← readDocument_eq_compound_iff]
  constructor
  · rintro ⟨fault, hread, hraise⟩
    rwa [DocumentFault.raise_eq_compound_iff.mp hraise.symm] at hread
  · exact fun hread => ⟨_, hread, rfl⟩

/-- That a value cannot be shown is raised exactly if the first flaw of the document is an event
whose defect is about such a value. -/
theorem ofDocument_eq_unshown_iff {shown : ShowFault} :
    ofDocument machine document = .error (.unshown shown) ↔
      ∃ path item index, FlawedAt document path item index ∧ Unshown machine shown item := by
  rw [ofDocument_eq_error_iff]
  constructor
  · rintro ⟨fault, hread, hraise⟩
    obtain ⟨file, index, cause, rfl, hshow⟩ := DocumentFault.raise_eq_unshown_iff.mp hraise.symm
    rcases flawedAt_of_readDocument hread with
      ⟨path, item, place, fault, hflaw, hitem, hplace⟩ | ⟨other, defect, hplace, hnone⟩
    · cases fault with
      | defect found =>
        obtain ⟨-, -, rfl⟩ := DocumentFault.defect.inj hplace
        exact ⟨path, item, place, hflaw, cause, hitem, hshow⟩
      | compound kind => cases hplace
    · obtain ⟨-, -, rfl⟩ := DocumentFault.defect.inj hplace
      simp [Defect.showFault?, hnone] at hshow
  · rintro ⟨path, item, index, hflaw, cause, hitem, hshow⟩
    obtain ⟨fault, hfault, hread⟩ := readDocument_of_flawedAt hflaw
    rw [hitem] at hfault
    obtain rfl := Except.error.inj hfault
    exact ⟨_, hread, (DocumentFault.raise_eq_unshown_iff.mpr ⟨_, _, _, rfl, hshow⟩).symm⟩

/-- How a document is refused. -/
structure RefusedInPlace (machine : Machine) (document : Named Json) : Prop where
  /-- Unless its first flaw is an event that misnames something, or whose defect is about a value
  that cannot be shown, a document is read or refused for a defect. -/
  read_or_refused :
    (∀ path item index, FlawedAt document path item index →
      (∀ kind, ¬Misnames kind item) ∧ ∀ shown, ¬Unshown machine shown item) →
      (∃ files, ofDocument machine document = .ok files) ∨
        ∃ file index cause, ofDocument machine document = .error (.defect file index cause)
  /-- The defect of an event is reported with the path of the file and with the index. -/
  named : ∀ {path item index}, FlawedAt document path item index →
    (∀ kind, ¬Misnames kind item) → (∀ shown, ¬Unshown machine shown item) →
    ∃ cause, Event.read item = .error (.defect cause) ∧
      ofDocument machine document = .error (.defect (some path) (some index) cause)
  /-- A defect that is reported with an index is the defect of the event there. -/
  of_named : ∀ {file index cause},
    ofDocument machine document = .error (.defect file (some index) cause) →
    ∃ path item, file = some path ∧ FlawedAt document path item index ∧
      Event.read item = .error (.defect cause)
  /-- Reading fails on a list or an object exactly if the first flaw is an event that misnames
  something. -/
  compound_iff : ∀ kind, ofDocument machine document = .error (.compound kind) ↔
    ∃ path item index, FlawedAt document path item index ∧ Misnames kind item
  /-- Reading fails on a value that cannot be shown exactly if the first flaw is an event whose
  defect is about such a value. -/
  unshown_iff : ∀ shown, ofDocument machine document = .error (.unshown shown) ↔
    ∃ path item index, FlawedAt document path item index ∧ Unshown machine shown item

/-- The first flaw is reported with its place, if it misnames nothing and can be shown. -/
theorem refused_of_flawedAt {machine : Machine} {document : Named Json} {path : String}
    {item : Json} {index : Nat} (hflaw : FlawedAt document path item index)
    (hnames : ∀ kind, ¬Misnames kind item) (hshown : ∀ shown, ¬Unshown machine shown item) :
    ∃ cause, Event.read item = .error (.defect cause) ∧
      ofDocument machine document = .error (.defect (some path) (some index) cause) := by
  obtain ⟨fault, hitem, hread⟩ := readDocument_of_flawedAt hflaw
  cases fault with
  | compound kind => exact absurd (read_eq_compound_iff.mp hitem) (hnames kind)
  | defect cause =>
    have hshow : cause.showFault? machine = none := by
      cases hfound : cause.showFault? machine with
      | none => rfl
      | some shown => exact absurd ⟨cause, hitem, hfound⟩ (hshown shown)
    have hraise := DocumentFault.raise_of_showFault? hshow (some path) (some index)
    exact ⟨cause, hitem, ofDocument_eq_error_iff.mpr ⟨_, hread, hraise.symm⟩⟩

/-- **Documents are refused in place.** A document is read, or refused for a defect that is reported
with the file and the index of the event that has it; except if the first event that cannot be read
has a list or an object for its framework or for the form of an argument, or a defect about a value
that is nested too deep for the machine or has a number of too many digits. -/
theorem refused_in_place (machine : Machine) (document : Named Json) :
    RefusedInPlace machine document := by
  constructor
  case read_or_refused =>
    intro hfirst
    cases hread : readDocument document with
    | ok files => exact .inl ⟨files, ofDocument_eq_ok_iff.mpr hread⟩
    | error fault =>
      rcases flawedAt_of_readDocument hread with
        ⟨path, item, index, -, hflaw, -, -⟩ | ⟨file, cause, rfl, hnone⟩
      · obtain ⟨hnames, hshown⟩ := hfirst path item index hflaw
        obtain ⟨cause, -, hrefused⟩ := refused_of_flawedAt hflaw hnames hshown
        exact .inr ⟨_, _, _, hrefused⟩
      · have hshow : cause.showFault? machine = none := by simp only [Defect.showFault?, hnone]
        have hraise := DocumentFault.raise_of_showFault? hshow file none
        exact .inr ⟨file, none, cause, ofDocument_eq_error_iff.mpr ⟨_, hread, hraise.symm⟩⟩
  case named => exact refused_of_flawedAt
  case of_named =>
    intro file index cause hrefused
    obtain ⟨fault, hread, hraise⟩ := ofDocument_eq_error_iff.mp hrefused
    obtain ⟨rfl, -⟩ := DocumentFault.raise_eq_defect_iff.mp hraise.symm
    rcases flawedAt_of_readDocument hread with
      ⟨path, item, place, fault, hflaw, hitem, hplace⟩ | ⟨other, defect, hplace, -⟩
    · cases fault with
      | defect found =>
        obtain ⟨rfl, hindex, rfl⟩ := DocumentFault.defect.inj hplace
        obtain rfl := Option.some.inj hindex
        exact ⟨path, item, rfl, hflaw, hitem⟩
      | compound kind => cases hplace
    · cases hplace
  case compound_iff => exact fun kind => ofDocument_eq_compound_iff
  case unshown_iff => exact fun shown => ofDocument_eq_unshown_iff

/-- A document whose only event creates a router with a list for its framework. -/
def frameworkList : Named Json :=
  [("files", .array [.object [("path", .string "a.js"), ("events", .array [.object
    [("type", .string "router"), ("identifier", .string "r"),
      ("callee", .object [("name", .string "Router")]), ("framework", .array [])]])]])]

/-- Not every document is read or refused for a defect, even where there is room for everything. -/
theorem not_forall_refused_for_defect :
    ¬∀ document : Named Json, (∃ files, ofDocument .utf8 document = .ok files) ∨
      ∃ file index cause, ofDocument .utf8 document = .error (.defect file index cause) := by
  intro hall
  have hread : ofDocument .utf8 frameworkList = .error (.compound .list) := rfl
  rcases hall frameworkList with ⟨files, hok⟩ | ⟨file, index, cause, hdefect⟩
  · rw [hread] at hok
    cases hok
  · rw [hread] at hdefect
    cases hdefect

end SourceFile

end RouteAudit
