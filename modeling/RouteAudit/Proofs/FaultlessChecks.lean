import RouteAudit.Command
import RouteAudit.Proofs.AcceptedOptions
import RouteAudit.Proofs.CheckSettings
import RouteAudit.Proofs.DocumentReading
import RouteAudit.Proofs.JsonReading

/-!
# Checks meet no fault

A document that is read from a text has no number of too many digits, so the place of every route in
it can be written. And the flags of a check give a number for the level. So nothing that an audit
checks for can fail in the run of a check, and the run is the one without checks.
-/

namespace RouteAudit

open Json (IsShort FieldsShort isShort_array_iff isShort_object_iff)

/-- A whole number that is read from a short value can be written. -/
theorem Whole.isLong_of_isShort {given : Json} {whole : Whole} (hgiven : given.IsShort)
    (hwhole : ofJson? given = some whole) : whole.isLong = false := by
  cases given with
  | int value =>
    cases hwhole
    exact hgiven
  | bool value =>
    cases hwhole
    rfl
  | _ => cases hwhole

/-- A field that stands for a number where it is missing is short. -/
theorem Json.FieldsShort.getD {fields : Named Json} (h : FieldsShort fields) (name : String)
    {value : Json} (hvalue : value.IsShort) : ((fields.lookup name).getD value).IsShort := by
  cases hfield : fields.lookup name with
  | none => exact hvalue
  | some found => exact h.of_lookup hfield

namespace Event

/-- The place of a registration that is read from short fields can be written. -/
theorem isPlaced_of_readRouteRegistered {fields : Named Json} {event : Event}
    (hfields : FieldsShort fields) (h : readRouteRegistered fields = .ok event) :
    event.IsPlaced := by
  have hnone : ∀ c ∈ ([] : List Char), Text.isDecimalDigit c = true := nofun
  have hzero : (Json.int 0).IsShort := Json.isShort_int_of_digits hnone (Nat.zero_le _) false
  unfold readRouteRegistered at h
  split at h
  · next line column hline hcolumn =>
    simp only [bind_eq_ok_iff, pure_eq_ok_iff] at h
    obtain ⟨method, -, path, -, router, -, rfl⟩ := h
    exact fun _ => ⟨Whole.isLong_of_isShort (hfields.getD "line" hzero) hline,
      Whole.isLong_of_isShort (hfields.getD "column" hzero) hcolumn⟩
  · cases h

/-- A registration is read from the fields of an object. -/
theorem readRouteRegistered_of_read {item : Json} {registration : Registration}
    (h : read item = .ok (.routeRegistered registration)) :
    ∃ fields, item = .object fields ∧
      readRouteRegistered fields = .ok (.routeRegistered registration) := by
  unfold read at h
  split at h
  · split at h
    · simp only [readRouterCreated, bind_eq_ok_iff, pure_eq_ok_iff] at h
      obtain ⟨framework, -, identifier, -, callee, -, heq⟩ := h
      cases heq
    · unfold readMountAttempted at h
      split at h
      · simp only [bind_eq_ok_iff, pure_eq_ok_iff] at h
        obtain ⟨callee, -, arguments, -, heq⟩ := h
        cases heq
      · cases h
    · simp only [bind_eq_ok_iff, pure_eq_ok_iff] at h
      obtain ⟨identifier, -, heq⟩ := h
      cases heq
    · simp only [readRouterImported, bind_eq_ok_iff, pure_eq_ok_iff] at h
      obtain ⟨importedName, -, localName, -, source, -, heq⟩ := h
      cases heq
    · exact ⟨_, rfl, h⟩
    · cases h
  · cases h

/-- The place of an event that is read from a short item can be written. -/
theorem isPlaced_of_read {item : Json} {event : Event} (hitem : item.IsShort)
    (h : read item = .ok event) : event.IsPlaced := by
  cases event with
  | routeRegistered registration =>
    obtain ⟨fields, rfl, hread⟩ := readRouteRegistered_of_read h
    exact isPlaced_of_readRouteRegistered (isShort_object_iff.mp hitem) hread
  | _ => trivial

end Event

namespace SourceFile

/-- The places in the files of a document without long numbers can be written. -/
theorem isPlaced_of_readDocument {fields : Named Json} {files : List SourceFile}
    (hfields : FieldsShort fields) (h : readDocument fields = .ok files) :
    ∀ file ∈ files, file.IsPlaced := by
  unfold readDocument at h
  split at h
  · next entries hentries =>
    have hshort := isShort_array_iff.mp (hfields.of_lookup hentries)
    refine forall_mem_of_forall₂ (readFiles_eq_ok_iff.mp h) fun entry hentry file hread => ?_
    obtain ⟨inside, items, ⟨rfl, -⟩, hitems, hevents⟩ := hread
    have hinside := isShort_object_iff.mp (hshort _ hentry)
    have hall : ∀ item ∈ items, item.IsShort := by
      rcases hitems with hlist | ⟨-, rfl⟩
      · exact isShort_array_iff.mp (hinside.of_lookup hlist)
      · exact nofun
    exact forall_mem_of_forall₂ hevents fun item hitem event =>
      Event.isPlaced_of_read (hall item hitem)
  · cases h

/-- The places in the files of a document that is read from a disk can be written. -/
theorem isPlaced_of_load {machine : Machine} {disk : Disk} {path : String}
    {files : List SourceFile} (h : load machine disk path = .ok files) :
    ∀ file ∈ files, file.IsPlaced := by
  unfold load ofOpened at h
  split at h
  · cases h
  unfold readBytes at h
  split at h
  · cases h
  unfold readText at h
  split at h
  · cases h
  · cases h
  · next fields _ hvalue =>
    have hshort := isShort_object_iff.mp (Json.isShort_of_read hvalue)
    exact isPlaced_of_readDocument hshort (mapError_eq_ok_iff.mp (mapError_eq_ok_iff.mp h))
  · cases h

end SourceFile

namespace Command

/-- **Checks meet no fault.** Under the flags of a check, with a document that is read, an audit is
made, and its run over the files is carried out with everything that is checked for. -/
theorem run_meets_no_fault {machine : Machine} {disk : Disk} {request : CheckRequest}
    {settings : Settings} {files : List SourceFile}
    (hsettings : Settings.ofOptions request.flags.options = .ok settings)
    (hfiles : SourceFile.load machine disk request.path = .ok files) :
    ∃ given, LooseOptions.ofOptions? request.flags.options machine.runName = some given ∧
      Audit.tryCreate given = .ok (.ofSettings (settings.naming machine.runName)) ∧
      (Audit.ofSettings (settings.naming machine.runName)).tryRun given files none Audit.never =
        .ok ((Audit.ofSettings (settings.naming machine.runName)).run files none Audit.never) := by
  have hglobal : request.flags.options.value .globalPrefix = .null ∨
      ∃ path, request.flags.options.value .globalPrefix = .string path := by
    rw [CheckFlags.value_options, CheckFlags.valueOf]
    cases request.flags.globalPath.filter (· ≠ "") with
    | none => exact .inl rfl
    | some path => exact .inr ⟨path, rfl⟩
  obtain ⟨given, hgiven, haccepted, hlevel⟩ :=
    LooseOptions.exists_accepted machine.runName hsettings
      (request.flags.value_options .keepConstraints) hglobal
  have hgoes := Audit.goesBy_ofSettings haccepted hlevel
  have hplaced := SourceFile.isPlaced_of_load hfiles
  exact ⟨given, hgiven, Audit.tryCreate_eq haccepted.settings,
    (Audit.tryRun_eq hgoes none Audit.never hplaced).1⟩

end Command

end RouteAudit
