import DeviceLab.Catalog.Builtin
import DeviceLab.Proofs.Attributes
import DeviceLab.Proofs.Discharge

/-! What the tests of the catalog note.

Sessions with a device take no notes; procedures do, and each says in its own text which
keys there are. What stands under a key is a word or a number of the bench, or what the
device has said, and then it may be any text: only reports of the trusted platform module
are read line by line, so that no newline is left in them (`Catalog.procedures_note`). -/
namespace DeviceLab.Device
open Dialogue Catalog

/-! ### Sessions take no notes -/

def Request.Silent : Request → Prop
  | .record _ => False
  | _ => True

/-- The session takes no notes. -/
abbrev Silent {ε α : Type} (s : ExceptT ε Talk α) : Prop :=
  Asks Request.Silent (ExceptT.run s)

theorem run_silent (c : Command) : Silent (Session.run c) :=
  asks_question (q := Request.run c) trivial

theorem output_silent (c : Command) : Silent (Session.output c) :=
  asks_try (run_silent c) fun _ => asks_pure _

theorem system_silent (c : Command) : Silent (Session.system c) :=
  asks_try (run_silent c) fun _ => asks_pure _

theorem status_silent : Silent Tpm.status := by
  refine asks_try (output_silent _) fun out => ?_
  have hflag (label : String) : Silent (Tpm.flag label out) := by
    unfold Tpm.flag
    split
    · exact asks_pure _
    · exact asks_throw _
  exact asks_try (hflag _) fun _ => asks_try (hflag _) fun _ => asks_pure _

/-- A report is read out of what the module prints. -/
theorem report_course {log : Log} {report : Tpm.Report}
    (h : Course (ExceptT.run Tpm.report) log (.ok report)) : ∃ out, report = Tpm.reportOf out := by
  obtain ⟨e, he, -⟩ | ⟨_, out, _, -, -, hend⟩ := course_try_iff.mp h
  · cases he
  · exact ⟨out, Except.ok.inj (course_pure_iff.mp hend).2⟩

theorem report_silent : Silent Tpm.report :=
  asks_try (output_silent _) fun _ => asks_pure _

theorem ensureRunning_silent (service : String) : Silent (Upstart.ensureRunning service) := by
  refine asks_try (output_silent _) fun out => ?_
  split
  · exact asks_pure _
  · exact asks_throw _

theorem pid_silent (service : String) : Silent (Upstart.pid service) :=
  asks_try (output_silent _) fun _ => asks_pure _

theorem list_silent : Silent Dlc.list := by
  refine asks_try (run_silent _) fun status => ?_
  split
  · exact asks_pure _
  · exact asks_throw _

theorem version_silent : Asks Request.Silent Fwupd.version := by
  refine asks_bind (output_silent _) fun out => ?_
  split <;> trivial

theorem parts_silent : Silent Fwupd.parts := by
  refine asks_try ?_ fun out => ?_
  · refine asks_bind (output_silent _) fun out => ?_
    cases out with
    | ok a => trivial
    | error f => trivial
  · split
    · exact asks_throw _
    · exact asks_throw _
    · exact asks_pure _

theorem get_silent (sec : Vpd.Section) (key : String) : Silent (Vpd.get sec key) :=
  asks_try (run_silent _) fun _ => asks_pure _

theorem stopOne_silent (service : String) : Asks Request.Silent (Stopper.stopOne service) := by
  refine asks_bind (output_silent _) fun status => ?_
  cases status with
  | error e => trivial
  | ok out =>
    dsimp only
    split
    · exact asks_bind (asks_question trivial) fun _ => trivial
    · trivial

theorem stopEach_silent (services : List String) :
    Asks Request.Silent (Stopper.stopEach services) := by
  induction services with
  | nil => trivial
  | cons service rest ih =>
    exact asks_bind (stopOne_silent service) fun _ => asks_bind ih fun _ => trivial

theorem startEach_silent (services : List String) :
    Asks Request.Silent (Stopper.startEach services) := by
  induction services with
  | nil => trivial
  | cons service rest ih => exact asks_bind (asks_question trivial) fun _ => ih

theorem chargeControl_silent (interval : Nat) (charge ignoreStatus : Bool) (tries : Nat) :
    Silent (Discharge.chargeControl interval charge ignoreStatus tries) := by
  induction tries with
  | zero => exact asks_pure _
  | succ tries ih =>
    refine asks_try (asks_lift (asks_question trivial)) fun ended => ?_
    cases ended with
    | ok out => exact asks_pure _
    | error f =>
      cases ignoreStatus
      · exact asks_throw _
      · exact asks_try (asks_lift (asks_question trivial)) fun _ => ih

theorem awaitDischarge_silent (interval looks : Nat) :
    Silent (Discharge.awaitDischarge interval looks) := by
  induction looks with
  | zero => exact asks_pure _
  | succ looks ih =>
    refine asks_try (asks_question (q := Request.refreshBattery) trivial) fun _ => ?_
    refine asks_try (asks_lift (asks_question trivial)) fun discharging => ?_
    cases discharging
    · exact asks_try (asks_lift (asks_question trivial)) fun _ => ih
    · exact asks_pure _

theorem force_silent (interval : Nat) : Silent (Discharge.force interval) := by
  refine asks_try (asks_lift (asks_question trivial)) fun battery => ?_
  cases battery
  · exact asks_pure _
  refine asks_try (asks_lift (asks_question trivial)) fun controller => ?_
  cases controller
  · exact asks_pure _
  refine asks_try (chargeControl_silent _ _ _ _) fun took => ?_
  cases took
  · exact asks_pure _
  exact asks_try (awaitDischarge_silent _ _) fun _ => asks_pure _

theorem apply_silent (interval : Nat) (setting : Discharge.Setting) :
    Silent (Discharge.apply interval setting) := by
  cases setting with
  | off => exact asks_pure _
  | required =>
    refine asks_try (force_silent _) fun found => ?_
    cases found
    · exact asks_pure _
    · exact asks_throw _
  | wished => exact asks_try (force_silent _) fun _ => asks_pure _

theorem restore_silent (interval : Nat) (forced : Bool) :
    Silent (Discharge.restore interval forced) := by
  cases forced
  · exact asks_pure _
  · exact asks_try (chargeControl_silent _ _ _ _) fun _ => asks_pure _

theorem measure_silent (setting : Discharge.Setting) :
    Asks Request.Silent (Power.measure setting) := by
  refine asks_bind (asks_bind (stopEach_silent _) fun _ => trivial) fun stopper => ?_
  refine asks_bind (apply_silent _ _) fun forced => ?_
  have hlast (restored : Except Failure Unit) :
      Asks Request.Silent (stopper.restore >>= fun _ =>
        (pure (do let success ← forced; restored; return success) : Talk (Except Failure Bool))) :=
    asks_bind (asks_bind (startEach_silent _) fun _ => trivial) fun _ => trivial
  cases forced with
  | ok success => exact asks_bind (restore_silent _ _) hlast
  | error f => exact hlast _

end DeviceLab.Device

namespace DeviceLab
open Device Dialogue

/-! ### What procedures note -/

/-- The request notes such pairs only. -/
def Device.Request.Notes (fits : String × String → Prop) : Request → Prop
  | .record pairs => ∀ pair ∈ pairs, fits pair
  | _ => True

namespace Procedure
variable {fits : String × String → Prop} {α β : Type}

/-- The procedure notes such pairs only. -/
abbrev Notes (fits : String × String → Prop) (p : Procedure α) : Prop :=
  Asks (Request.Notes fits) (ExceptT.run p)

theorem session_notes {s : Session α} (h : Silent s) : Notes fits (session s) := by
  refine asks_bind (h.mono fun q hq => ?_) fun _ => trivial
  cases q with
  | record pairs => exact hq.elim
  | _ => trivial

theorem session_bind_notes {s : Session α} {f : α → Procedure β} (h : Silent s)
    (hf : ∀ log a, Course (ExceptT.run s) log (.ok a) → Notes fits (f a)) :
    Notes fits (session s >>= f) := by
  rw [Notes, ExceptT.run_bind]
  refine asks_bind_of_course (session_notes h) fun log r hcourse => ?_
  obtain ⟨r', hs, rfl⟩ := session_course_iff.mp hcourse
  cases r' with
  | error e => trivial
  | ok a => exact hf log a hs

theorem need_bind_notes {e : Except Failure α} {f : α → Procedure β}
    (hf : ∀ a, e = .ok a → Notes fits (f a)) : Notes fits (need e >>= f) := by
  cases e with
  | error failure => trivial
  | ok a => exact hf a rfl

theorem record_notes {pairs : List (String × String)} (h : ∀ pair ∈ pairs, fits pair) :
    Notes fits (record pairs) :=
  asks_bind (asks_question h) fun _ => trivial

end Procedure

/-! ### Pairs -/

/-- The pair can be read back from its line. -/
structure Legible (pair : String × String) : Prop where
  /-- The key ends at the first equals sign. -/
  equals : '=' ∉ pair.1.toList
  key : '\n' ∉ pair.1.toList
  value : '\n' ∉ pair.2.toList
  /-- A carriage return there counts for a part of the line end. -/
  ending : pair.2.toList.getLast? ≠ some '\r'

/-- What a test of the catalog may note, by its name and its parameters. -/
inductive Notable (params : List String) : String → String × String → Prop where
  /-- A word or a number of the bench itself. -/
  | own {name : String} {pair : String × String} : Legible pair → Notable params name pair
  /-- An attribute, which the module names itself. -/
  | attribute {key value : String} : '\n' ∉ key.toList → '\n' ∉ value.toList →
      Notable params "platform_TpmStatus" ("tpm_" ++ key, value)
  | content {key value : String} : key ∈ ["dlc_version", "dlc_root_mount"] →
      Notable params "platform_DlcInstall" (key, value)
  | firmware {key value : String} : key ∈ ["fwupd_version", "device_name", "device_version"] →
      Notable params "firmware_FwupdDevice" (key, value)
  /-- Vital product data under the key that was asked for. -/
  | product {key value : String} : params[1]? = some key →
      Notable params "hardware_VpdField" ("vpd_" ++ key, value)

/-- Neither line ends nor parts of one. -/
def Plain (cs : List Char) : Prop := ∀ c ∈ cs, c ≠ '\n' ∧ c ≠ '\r'

instance : DecidablePred Plain := fun cs => List.decidableBAll _ cs

theorem Legible.of_plain {key value : String} (hkey : '=' ∉ key.toList ∧ '\n' ∉ key.toList)
    (h : Plain value.toList) : Legible (key, value) where
  equals := hkey.1
  key := hkey.2
  value := fun hc => (h _ hc).1 rfl
  ending := fun hlast => (h _ (List.mem_of_getLast? hlast)).2 rfl

theorem Plain.append {cs ds : List Char} (h : Plain cs) (h' : Plain ds) : Plain (cs ++ ds) :=
  fun c hc => (List.mem_append.mp hc).elim (h c) (h' c)

theorem plain_digits (n : Nat) : Plain (Nat.toDigits 10 n) := by
  intro c hc
  have hdigit := Nat.isDigit_of_mem_toDigits (by decide) (by decide) hc
  constructor <;>
  · rintro rfl
    cases hdigit

theorem plain_toString (n : Nat) : Plain (toString n).toList := by
  rw [Nat.toString_eq_repr, Nat.toList_repr]
  exact plain_digits n

theorem plain_zeros (n : Nat) : Plain (List.replicate n '0') := by
  intro c hc
  rw [List.eq_of_mem_replicate hc]
  decide

theorem plain_positional (d : Nat) (e : Int) : Plain (Shortest.plain d e).toList := by
  unfold Shortest.plain
  dsimp only
  split
  · split
    · decide
    · rw [String.toList_ofList]
      exact (plain_digits d).append (plain_zeros _)
  · have htext :=
      (plain_zeros ((-e).toNat + 1 - (Binary64.digits d).length)).append (plain_digits d)
    split
    · rw [String.toList_ofList]
      exact fun c hc => htext c (List.mem_of_mem_take hc)
    · rw [String.toList_ofList]
      refine Plain.append (fun c hc => htext c (List.mem_of_mem_take hc))
        (List.forall_mem_cons.mpr ⟨by decide, fun c hc => ?_⟩)
      have hdrop := List.mem_reverse.mp (List.dropWhile_subset _ (List.mem_reverse.mp hc))
      exact htext c (List.mem_of_mem_drop hdrop)

theorem plain_text (x : Float) : Plain (Shortest.text x).toList := by
  unfold Shortest.text
  split
  · next negative m q _ =>
    have hsign : Plain (if negative then "-" else "").toList := by cases negative <;> decide
    rw [String.toList_append]
    exact hsign.append (plain_positional _ _)
  · next negative _ => cases negative <;> decide
  · decide

namespace Catalog
open Procedure
variable {params : List String}

theorem vpdField_notes :
    Notes (Notable params "hardware_VpdField") (Parts.vpdField params) := by
  refine need_bind_notes fun name _ => need_bind_notes fun sec _ => ?_
  refine need_bind_notes fun key hkey => session_bind_notes (get_silent _ _) fun _ found _ => ?_
  have hparam : params[1]? = some key := by
    unfold param at hkey
    split at hkey
    · next hp => rw [hp, Except.ok.inj hkey]
    · cases hkey
  cases found with
  | none => trivial
  | some value =>
    dsimp only
    split
    · trivial
    · exact record_notes (List.forall_mem_singleton.mpr (.product hparam))

theorem fwupdDevice_notes :
    Notes (Notable params "firmware_FwupdDevice") (Parts.fwupdDevice params) := by
  refine session_bind_notes (asks_lift version_silent) fun _ running _ => ?_
  cases running with
  | none => trivial
  | some version =>
    refine need_bind_notes fun id _ => session_bind_notes parts_silent fun _ parts _ => ?_
    refine need_bind_notes fun part _ => record_notes ?_
    exact List.forall_mem_cons.mpr ⟨.firmware (by decide), List.forall_mem_cons.mpr
      ⟨.firmware (by decide), List.forall_mem_singleton.mpr (.firmware (by decide))⟩⟩

theorem tpmStatus_notes :
    Notes (Notable params "platform_TpmStatus") (Platform.tpmStatus params) := by
  refine session_bind_notes status_silent fun _ ⟨enabled, owned⟩ _ => ?_
  cases enabled
  · trivial
  cases owned
  · trivial
  refine session_bind_notes report_silent fun _ report hreport => record_notes fun pair hpair => ?_
  obtain ⟨⟨key, value⟩, hentry, rfl⟩ := List.mem_map.mp hpair
  obtain ⟨out, rfl⟩ := report_course hreport
  obtain ⟨hkey, hvalue⟩ := Tpm.not_newline_reportOf hentry
  exact .attribute hkey hvalue

theorem upstartInstalled_notes {fits : String × String → Prop} :
    Notes fits (Platform.upstartInstalled params) := by
  refine need_bind_notes fun service _ => ?_
  refine session_bind_notes (asks_lift (asks_question trivial)) fun _ installed _ => ?_
  cases installed <;> trivial

theorem upstartJob_notes :
    Notes (Notable params "platform_UpstartJob") (Platform.upstartJob params) := by
  refine asks_try upstartInstalled_notes fun _ => need_bind_notes fun service _ => ?_
  refine session_bind_notes (ensureRunning_silent _) fun _ _ _ => ?_
  refine session_bind_notes (pid_silent _) fun _ found _ => ?_
  cases found with
  | none => trivial
  | some pid =>
    exact record_notes (List.forall_mem_singleton.mpr
      (.own (.of_plain (by decide) (plain_toString pid))))

theorem dlcInstall_notes :
    Notes (Notable params "platform_DlcInstall") (Platform.dlcInstall params) := by
  refine need_bind_notes fun id _ => need_bind_notes fun url _ => ?_
  refine session_bind_notes (system_silent _) fun _ _ _ => ?_
  refine session_bind_notes (system_silent _) fun _ _ _ => ?_
  refine session_bind_notes list_silent fun _ listing _ => ?_
  split
  · trivial
  · refine asks_try (record_notes ?_) fun _ => session_notes (system_silent _)
    exact List.forall_mem_cons.mpr
      ⟨.content (by decide), List.forall_mem_singleton.mpr (.content (by decide))⟩

theorem forceDischarge_notes :
    Notes (Notable params "power_ForceDischarge") (Power.forceDischarge params) := by
  refine session_bind_notes (asks_question (q := Request.openBattery) trivial) fun _ _ _ => ?_
  refine need_bind_notes fun name _ => need_bind_notes fun setting _ => ?_
  refine session_bind_notes (measure_silent setting) fun _ success _ => record_notes ?_
  refine List.forall_mem_cons.mpr ⟨?_, List.forall_mem_singleton.mpr ?_⟩
  · cases setting <;> exact .own (.of_plain (by decide) (by decide))
  · cases success <;> exact .own (.of_plain (by decide) (by decide))

theorem sleep_notes : Notes (Notable params "dummy_Sleep") (Dummy.sleep params) := by
  refine need_bind_notes fun secs _ => ?_
  split
  · trivial
  · refine session_bind_notes (asks_lift (asks_question trivial)) fun _ _ _ => ?_
    exact record_notes (List.forall_mem_singleton.mpr
      (.own (.of_plain (by decide) (plain_text secs))))

theorem pass_notes : Notes (Notable params "dummy_Pass") (Dummy.pass params) :=
  record_notes (List.forall_mem_singleton.mpr (.own (.of_plain (by decide) (plain_toString _))))

/-- The tests of the catalog note nothing else. -/
theorem procedures_note {p : String × (List String → Procedure Unit)} (h : p ∈ procedures)
    (params : List String) : Notes (Notable params p.1) (p.2 params) := by
  simp only [procedures, List.mem_cons, List.not_mem_nil, or_false] at h
  rcases h with rfl | rfl | rfl | rfl | rfl | rfl | rfl | rfl | rfl | rfl
  · exact pass_notes
  · trivial
  · trivial
  · exact sleep_notes
  · exact tpmStatus_notes
  · exact upstartJob_notes
  · exact dlcInstall_notes
  · exact fwupdDevice_notes
  · exact vpdField_notes
  · exact forceDischarge_notes

end Catalog
end DeviceLab
