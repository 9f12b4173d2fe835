import RouteAudit.Proofs.CheckOutcomes
import RouteAudit.Proofs.DocumentRefusals
import RouteAudit.Proofs.JsonReading
import RouteAudit.Proofs.TextBytes

/-!
# Checks that cannot be made

A check that is asked for is made, or reported to be impossible, or it ends without an outcome. It
is reported if the flags are rejected, if the system does not open the file, if its text is no JSON,
and if its value is no document of events. It ends without an outcome if the path is none, if the
bytes are no text, if a number has too many digits or the machine has no room for what is nested, if
a list or an object stands in an event where one of several names has to, if the value that a defect
is about cannot be shown, and if the output has no form for the summary.
-/

namespace RouteAudit

open Event (Misnames Unshown)

/-! ## Files -/

/-- The file at a path holds a text: its bytes are those of a text, with any line ends. -/
def HasText (disk : Disk) (path text : String) : Prop :=
  ∃ written : String, disk.read path = .ok written.toUTF8.data.toList ∧
    text = String.ofList (Text.unifyNewlines written.toList)

/-- A text that is no path is not opened. -/
theorem Disk.read_of_pathFault {path : String} {fault : PathFault}
    (h : PathFault.ofText? path = some fault) (disk : Disk) :
    disk.read path = .error (.noPath fault) := by
  rw [read, h]

/-- A path is opened as the system opens it. -/
theorem Disk.read_of_path {path : String} (h : PathFault.ofText? path = none) (disk : Disk) :
    disk.read path = (disk (Files.tidy path)).mapError (.unopened (Files.tidy path)) := by
  rw [read, h]

namespace SourceFile

variable {machine : Machine} {disk : Disk} {path text : String} {bytes : List UInt8}

/-- A file is read if it can be opened and holds a text. -/
theorem load_of_text (htext : HasText disk path text) :
    load machine disk path = readText machine path text := by
  obtain ⟨written, hread, hwritten⟩ := htext
  have hbytes := Text.ofBytes_eq_ok_iff.mpr ⟨written, rfl, hwritten⟩
  rw [load, hread, ofOpened, readBytes, hbytes]

/-- A text for which there is no room is not read. -/
theorem readText_of_noRoom {message : String} (path : String)
    (hroom : machine.readingError? text = some message) :
    readText machine path text = .error (.noRoom message) := by
  rw [readText, hroom]

/-- A text that has a flaw is no JSON. -/
theorem readText_of_flaw {flaw : Json.Flaw} (path : String)
    (hroom : machine.readingError? text = none) (hflaw : Json.read text = .error flaw) :
    readText machine path text = .error (.syntaxFlaw path text flaw) := by
  rw [readText, hroom, hflaw]

/-- An object is read as a document. -/
theorem readText_of_object {fields : Named Json} (path : String)
    (hroom : machine.readingError? text = none)
    (hvalue : Json.read text = .ok (.object fields)) :
    readText machine path text = (ofDocument machine fields).mapError .document := by
  rw [readText, hroom, hvalue]

/-- A value that is no object is no document. -/
theorem readText_of_noObject {value : Json} (path : String)
    (hroom : machine.readingError? text = none) (hvalue : Json.read text = .ok value)
    (hobject : ∀ fields, value ≠ .object fields) :
    readText machine path text = .error (.notObject path) := by
  rw [readText, hroom, hvalue]
  cases value with
  | object fields => exact absurd rfl (hobject fields)
  | _ => rfl

/-- A file is read from its bytes. -/
theorem load_of_bytes (hread : disk.read path = .ok bytes) :
    load machine disk path = readBytes machine path bytes := by
  rw [load, hread, ofOpened]

/-- A file that cannot be opened is not read. -/
theorem load_of_fault {fault : FileFault} (hread : disk.read path = .error fault) :
    load machine disk path = .error (.file fault) := by
  rw [load, hread, ofOpened]

end SourceFile

namespace Command

/-- A check has flags that are accepted. -/
def Accepted (request : CheckRequest) : Prop :=
  ∃ settings, Settings.ofOptions request.flags.options = .ok settings

/-- The file of a check holds a text, and the machine has room to read it. -/
structure Readable (machine : Machine) (disk : Disk) (request : CheckRequest) (text : String) :
    Prop where
  accepted : Accepted request
  hasText : HasText disk request.path text
  hasRoom : machine.readingError? text = none

/-- Why a check cannot be made, with the message about it. -/
inductive Unusable (machine : Machine) (disk : Disk) (request : CheckRequest) : String → Prop where
  /-- The flags are rejected. -/
  | flags {problems : List OptionProblem}
      (hflags : Settings.ofOptions request.flags.options = .error problems) :
      Unusable machine disk request (OptionProblem.message problems)
  /-- The system does not open the file. -/
  | file {cause : FileCause} (haccepted : Accepted request)
      (hpath : PathFault.ofText? request.path = none)
      (hopen : disk (Files.tidy request.path) = .error cause) :
      Unusable machine disk request (FileFault.unopened (Files.tidy request.path) cause).message
  /-- The text is no JSON. -/
  | text {text : String} {cause : Json.Cause} {left : Nat}
      (htext : Readable machine disk request text)
      (hflaw : Json.read text = .error (.malformed cause left)) :
      Unusable machine disk request (located (some request.path) none
        ("invalid JSON: " ++ (Json.Flaw.malformed cause left).message text))
  /-- The value is no object. -/
  | value {text : String} {value : Json} (htext : Readable machine disk request text)
      (hvalue : Json.read text = .ok value) (hobject : ∀ fields, value ≠ .object fields) :
      Unusable machine disk request (located (some request.path) none
        "top-level JSON value must be an object")
  /-- The object is refused as a document, for a defect. -/
  | document {text : String} {fields : Named Json} {file : Option String} {index : Option Nat}
      {cause : Defect} (htext : Readable machine disk request text)
      (hvalue : Json.read text = .ok (.object fields))
      (hdefect : SourceFile.ofDocument machine fields = .error (.defect file index cause)) :
      Unusable machine disk request (DocumentRefusal.defect file index cause).message

/-- Why a check ends without an outcome. -/
inductive Escapes (machine : Machine) (disk : Disk) (request : CheckRequest) : Failure → Prop where
  /-- The path is none: it has a null character, or no bytes. -/
  | path {fault : PathFault} (haccepted : Accepted request)
      (hpath : PathFault.ofText? request.path = some fault) :
      Escapes machine disk request (.load (.file (.noPath fault)))
  /-- The bytes of the file are no text. -/
  | bytes {bytes : List UInt8} {fault : Text.Utf8Fault} (haccepted : Accepted request)
      (hread : disk.read request.path = .ok bytes)
      (hbytes : ∀ written : String, bytes ≠ written.toUTF8.data.toList)
      (hfault : Text.ofBytes bytes = .error fault) :
      Escapes machine disk request (.load (.encoding fault))
  /-- There is no room to read the text. -/
  | room {text message : String} (haccepted : Accepted request)
      (htext : HasText disk request.path text)
      (hroom : machine.readingError? text = some message) :
      Escapes machine disk request (.load (.noRoom message))
  /-- The text has a number with too many digits. -/
  | number {text : String} {count : Nat} (htext : Readable machine disk request text)
      (hnumeral : Json.HasLongNumeral text.toList count)
      (hflaw : Json.read text = .error (.tooManyDigits count)) :
      Escapes machine disk request
        (.load (.syntaxFlaw request.path text (.tooManyDigits count)))
  /-- A list or an object stands in an event where one of several names has to. -/
  | name {text path : String} {fields : Named Json} {item : Json} {index : Nat} {kind : Compound}
      (htext : Readable machine disk request text)
      (hvalue : Json.read text = .ok (.object fields))
      (hflaw : FlawedAt fields path item index) (hmisnames : Misnames kind item) :
      Escapes machine disk request (.load (.document (.compound kind)))
  /-- The value that the defect of an event is about cannot be shown. -/
  | shown {text path : String} {fields : Named Json} {item : Json} {index : Nat} {fault : ShowFault}
      (htext : Readable machine disk request text)
      (hvalue : Json.read text = .ok (.object fields))
      (hflaw : FlawedAt fields path item index) (hshown : Unshown machine fault item) :
      Escapes machine disk request (.load (.document (.unshown fault)))
  /-- The output has no form for the summary. -/
  | output {settings : Settings} {sources : List SourceFile} {message : String}
      (hsettings : Settings.ofOptions request.flags.options = .ok settings)
      (hsources : SourceFile.load machine disk request.path = .ok sources)
      (hprints : machine.printingError? (printed settings sources) = some message) :
      Escapes machine disk request (.unprintable message)

variable {machine : Machine} {disk : Disk} {request : CheckRequest}

/-- A text that can be read is read. -/
theorem Readable.load_eq {text : String} (h : Readable machine disk request text) :
    SourceFile.load machine disk request.path = SourceFile.readText machine request.path text :=
  SourceFile.load_of_text h.hasText

/-- A check of a document that is not read is reported to be impossible, if that was foreseen. -/
theorem run_of_fault {fault : LoadFault} (haccepted : Accepted request)
    (hload : SourceFile.load machine disk request.path = .error fault) :
    (Plan.ofRequest request).run machine disk =
      if fault.isForeseen then .ok (.unusable fault.message) else .error (.load fault) := by
  obtain ⟨settings, hsettings⟩ := haccepted
  simp only [Plan.ofRequest, hsettings, Plan.run, hload, conclude]

/-- What is unusable is reported. -/
theorem run_of_unusable {message : String} (h : Unusable machine disk request message) :
    (Plan.ofRequest request).run machine disk = .ok (.unusable message) := by
  cases h with
  | flags hflags =>
    simp only [Plan.ofRequest, hflags, Plan.run]
    rfl
  | file haccepted hpath hopen =>
    have hread := Disk.read_of_path hpath disk
    rw [hopen] at hread
    exact run_of_fault haccepted (SourceFile.load_of_fault hread)
  | text htext hflaw =>
    have hread := SourceFile.readText_of_flaw request.path htext.hasRoom hflaw
    exact run_of_fault htext.accepted (htext.load_eq.trans hread)
  | value htext hvalue hobject =>
    have hread := SourceFile.readText_of_noObject request.path htext.hasRoom hvalue hobject
    exact run_of_fault htext.accepted (htext.load_eq.trans hread)
  | document htext hvalue hdefect =>
    have hread := SourceFile.readText_of_object request.path htext.hasRoom hvalue
    rw [hdefect] at hread
    exact run_of_fault htext.accepted (htext.load_eq.trans hread)

/-- What escapes ends a check without an outcome. -/
theorem run_of_escapes {failure : Failure} (h : Escapes machine disk request failure) :
    (Plan.ofRequest request).run machine disk = .error failure := by
  cases h with
  | path haccepted hpath =>
    have hread := Disk.read_of_pathFault hpath disk
    exact run_of_fault haccepted (SourceFile.load_of_fault hread)
  | bytes haccepted hread hbytes hfault =>
    have hload : SourceFile.load machine disk request.path = _ := SourceFile.load_of_bytes hread
    rw [SourceFile.readBytes, hfault] at hload
    exact run_of_fault haccepted hload
  | room haccepted htext hroom =>
    have hread := SourceFile.readText_of_noRoom request.path hroom
    exact run_of_fault haccepted ((SourceFile.load_of_text htext).trans hread)
  | number htext hnumeral hflaw =>
    have hread := SourceFile.readText_of_flaw request.path htext.hasRoom hflaw
    exact run_of_fault htext.accepted (htext.load_eq.trans hread)
  | name htext hvalue hflaw hmisnames =>
    have hread := SourceFile.readText_of_object request.path htext.hasRoom hvalue
    rw [SourceFile.ofDocument_eq_compound_iff.mpr ⟨_, _, _, hflaw, hmisnames⟩] at hread
    exact run_of_fault htext.accepted (htext.load_eq.trans hread)
  | shown htext hvalue hflaw hshown =>
    have hread := SourceFile.readText_of_object request.path htext.hasRoom hvalue
    rw [SourceFile.ofDocument_eq_unshown_iff.mpr ⟨_, _, _, hflaw, hshown⟩] at hread
    exact run_of_fault htext.accepted (htext.load_eq.trans hread)
  | output hsettings hsources hprints => rw [run_of_sources hsettings hsources, hprints]

/-- A check of an object is reported to be impossible, ends without an outcome, or is of a document
that is read. -/
theorem unusable_or_escapes_or_loads_of_object {text : String} {fields : Named Json}
    (htext : Readable machine disk request text)
    (hvalue : Json.read text = .ok (.object fields)) :
    (∃ message, Unusable machine disk request message) ∨
      (∃ failure, Escapes machine disk request failure) ∨
      ∃ sources, SourceFile.load machine disk request.path = .ok sources := by
  have hload := htext.load_eq.trans
    (SourceFile.readText_of_object request.path htext.hasRoom hvalue)
  cases hdocument : SourceFile.ofDocument machine fields with
  | ok sources =>
    rw [hdocument] at hload
    exact .inr (.inr ⟨sources, hload⟩)
  | error refusal =>
    cases refusal with
    | defect file index cause => exact .inl ⟨_, .document htext hvalue hdocument⟩
    | compound kind =>
      obtain ⟨path, item, index, hflaw, hmisnames⟩ :=
        SourceFile.ofDocument_eq_compound_iff.mp hdocument
      exact .inr (.inl ⟨_, .name htext hvalue hflaw hmisnames⟩)
    | unshown fault =>
      obtain ⟨path, item, index, hflaw, hshown⟩ :=
        SourceFile.ofDocument_eq_unshown_iff.mp hdocument
      exact .inr (.inl ⟨_, .shown htext hvalue hflaw hshown⟩)

/-- A check of a text is reported to be impossible, ends without an outcome, or is of a document
that is read. -/
theorem unusable_or_escapes_or_loads_of_text {text : String} (haccepted : Accepted request)
    (htext : HasText disk request.path text) :
    (∃ message, Unusable machine disk request message) ∨
      (∃ failure, Escapes machine disk request failure) ∨
      ∃ sources, SourceFile.load machine disk request.path = .ok sources := by
  cases hroom : machine.readingError? text with
  | some message => exact .inr (.inl ⟨_, .room haccepted htext hroom⟩)
  | none =>
    have hreadable : Readable machine disk request text := ⟨haccepted, htext, hroom⟩
    cases hvalue : Json.read text with
    | error flaw =>
      cases flaw with
      | malformed cause left => exact .inl ⟨_, .text hreadable hvalue⟩
      | tooManyDigits count =>
        have hnumeral := Json.hasLongNumeral_of_read hvalue
        exact .inr (.inl ⟨_, .number hreadable hnumeral hvalue⟩)
      | outOfFuel => exact absurd hvalue (Json.read_ne_outOfFuel text)
    | ok value =>
      cases value with
      | object fields => exact unusable_or_escapes_or_loads_of_object hreadable hvalue
      | _ => exact .inl ⟨_, .value hreadable hvalue nofun⟩

/-- A check is reported to be impossible, ends without an outcome, or is of a document that is read
under flags that are accepted and whose summary has a form on the output. -/
theorem unusable_or_escapes_or_prints (machine : Machine) (disk : Disk) (request : CheckRequest) :
    (∃ message, Unusable machine disk request message) ∨
      (∃ failure, Escapes machine disk request failure) ∨
      ∃ settings sources, Settings.ofOptions request.flags.options = .ok settings ∧
        SourceFile.load machine disk request.path = .ok sources ∧
        machine.printingError? (printed settings sources) = none := by
  cases hflags : Settings.ofOptions request.flags.options with
  | error problems => exact .inl ⟨_, .flags hflags⟩
  | ok settings =>
    have haccepted : Accepted request := ⟨settings, hflags⟩
    have hloads : (∃ message, Unusable machine disk request message) ∨
        (∃ failure, Escapes machine disk request failure) ∨
        ∃ sources, SourceFile.load machine disk request.path = .ok sources := by
      cases hpath : PathFault.ofText? request.path with
      | some fault => exact .inr (.inl ⟨_, .path haccepted hpath⟩)
      | none =>
        have hread := Disk.read_of_path hpath disk
        cases hopen : disk (Files.tidy request.path) with
        | error cause => exact .inl ⟨_, .file haccepted hpath hopen⟩
        | ok bytes =>
          rw [hopen] at hread
          cases htext : Text.ofBytes bytes with
          | error fault =>
            have hbytes : ∀ written : String, bytes ≠ written.toUTF8.data.toList := by
              intro written hwritten
              have hok := Text.ofBytes_eq_ok_iff.mpr ⟨written, hwritten, rfl⟩
              rw [htext] at hok
              cases hok
            exact .inr (.inl ⟨_, .bytes haccepted hread hbytes htext⟩)
          | ok text =>
            obtain ⟨written, rfl, hwritten⟩ := Text.ofBytes_eq_ok_iff.mp htext
            exact unusable_or_escapes_or_loads_of_text haccepted ⟨written, hread, hwritten⟩
    rcases hloads with hunusable | hescapes | ⟨sources, hsources⟩
    · exact .inl hunusable
    · exact .inr (.inl hescapes)
    · cases hprints : machine.printingError? (printed settings sources) with
      | none => exact .inr (.inr ⟨settings, sources, rfl, hsources, hprints⟩)
      | some message => exact .inr (.inl ⟨_, .output hflags hsources hprints⟩)

/-- How a check ends that is asked for. -/
structure EndsAsAsked (machine : Machine) (disk : Disk) (request : CheckRequest)
    (ending : Except Failure Outcome) : Prop where
  /-- What is unusable is reported: with one line, with nothing printed, and with status one. -/
  reported : ∀ message, Unusable machine disk request message →
    ending = .ok { status := 1, output := "", reports := "Error: " ++ message ++ "\n" }
  /-- There is no outcome exactly if something escapes. -/
  escapes_iff : ∀ failure, ending = .error failure ↔ Escapes machine disk request failure
  /-- Every other outcome is that of a check that is made. -/
  concludes : ∀ outcome, ending = .ok outcome →
    (∀ message, ¬Unusable machine disk request message) →
    ∃ settings sources, Settings.ofOptions request.flags.options = .ok settings ∧
      SourceFile.load machine disk request.path = .ok sources ∧ Concludes settings sources outcome

/-- **Unusable input.** A command line that asks for a check comes to a line about what is unusable,
or to a check that is made. It is left without an outcome only by a path that is none, by bytes that
are no text, by a number with too many digits, by a list or an object in place of a name, and where
the machine has no room for what is nested or no form for what is printed. -/
theorem run_ends_as_asked (machine : Machine) (disk : Disk) {arguments : List String}
    {request : CheckRequest} (hrequest : CheckRequest.ofCommandLine arguments = .ok request) :
    EndsAsAsked machine disk request (run machine disk arguments) := by
  rw [run_of_request hrequest]
  constructor
  case reported =>
    intro message hunusable
    rw [run_of_unusable hunusable]
    rfl
  case escapes_iff =>
    intro failure
    constructor
    · intro hend
      rcases unusable_or_escapes_or_prints machine disk request with
        ⟨message, hunusable⟩ | ⟨other, hescapes⟩ | ⟨settings, sources, hsettings, hsources, hprints⟩
      · rw [run_of_unusable hunusable] at hend
        cases hend
      · rw [run_of_escapes hescapes] at hend
        cases hend
        exact hescapes
      · rw [run_of_sources hsettings hsources, hprints] at hend
        cases hend
    · exact run_of_escapes
  case concludes =>
    intro outcome hend hnone
    rcases unusable_or_escapes_or_prints machine disk request with
      ⟨message, hunusable⟩ | ⟨failure, hescapes⟩ | ⟨settings, sources, hsettings, hsources, hprints⟩
    · exact absurd hunusable (hnone message)
    · rw [run_of_escapes hescapes] at hend
      cases hend
    · rw [run_of_sources hsettings hsources, hprints] at hend
      cases hend
      exact ⟨settings, sources, hsettings, hsources, concludes_analyse _ _ _ _⟩

/-- A disk without files. -/
def emptyDisk : Disk :=
  Files.disk []

/-- A check of a file that is missing is reported to be impossible. -/
theorem run_ends_as_asked_missing :
    run .utf8 emptyDisk ["check", "e.json"] =
      .ok { status := 1, reports := "Error: [Errno 2] No such file or directory: 'e.json'\n" } := by
  have hrequest : CheckRequest.ofCommandLine ["check", "e.json"] = .ok ⟨{}, "e.json"⟩ := by
    decide +kernel
  have hpath : PathFault.ofText? "e.json" = none := by decide +kernel
  have hopen : emptyDisk (Files.tidy "e.json") = .error .missing := rfl
  have haccepted : Accepted ⟨{}, "e.json"⟩ := ⟨_, CheckFlags.ofOptions_options {}⟩
  have hline : "Error: " ++ (FileFault.unopened (Files.tidy "e.json") .missing).message ++ "\n" =
      "Error: [Errno 2] No such file or directory: 'e.json'\n" := by decide +kernel
  have hends := run_ends_as_asked .utf8 emptyDisk hrequest
  rw [hends.reported _ (.file haccepted hpath hopen), hline]

/-- A disk with a file of one byte, which starts no character. -/
def brokenDisk : Disk :=
  Files.disk [("e.json", .bytes [0xFF])]

/-- Not every command line that asks for a check comes to an outcome. -/
theorem not_forall_check_ends :
    ¬∀ (disk : Disk) (arguments : List String) (request : CheckRequest),
      CheckRequest.ofCommandLine arguments = .ok request →
        ∃ outcome, run .utf8 disk arguments = .ok outcome := by
  intro hall
  have hrequest : CheckRequest.ofCommandLine ["check", "e.json"] = .ok ⟨{}, "e.json"⟩ := by
    decide +kernel
  have hend : run .utf8 brokenDisk ["check", "e.json"] =
      .error (.load (.encoding ⟨0, 0xFF, 1, .startByte⟩)) := by rfl
  obtain ⟨outcome, hrun⟩ := hall brokenDisk _ _ hrequest
  rw [hend] at hrun
  cases hrun

end Command

end RouteAudit
