import KernelLink.Connection.Network
import KernelLink.Proofs.Manager.Endings

namespace KernelLink

/-- A network may keep the control line from being opened, but not as a setting that is not allowed. -/
theorem Network.control_not_config (net : Network) (i : ConnectionInfo) (patience : Duration) {failure : Failure}
    (refused : net.openChannel i patience .control = .error failure) : failure.isConfig = false := by
  unfold openChannel connectChannel connect at refused
  rw [if_neg (by decide)] at refused
  split at refused
  · cases refused
    rfl
  · split at refused <;> cases refused <;> rfl

theorem mem_of_lookup {α β : Type} [DecidableEq α] {entries : List (α × β)} {key : α} {value : β}
    (found : entries.lookup key = some value) : (key, value) ∈ entries := by
  induction entries with
  | nil => cases found
  | cons entry rest ih =>
    obtain ⟨there, held⟩ := entry
    rw [List.lookup_cons] at found
    by_cases same : key = there
    · subst same
      rw [beq_self_eq_true] at found
      cases found
      exact List.mem_cons_self ..
    · rw [beq_false_of_ne same] at found
      exact List.mem_cons_of_mem _ (ih found)

theorem Network.lookup_refused_control (net : Network) (i : ConnectionInfo) (patience : Duration) {failure : Failure}
    (refused : (net.refused i patience).lookup .control = some failure) : failure.isConfig = false := by
  have member := mem_of_lookup refused
  unfold Network.refused at member
  obtain ⟨⟨kind, result⟩, asked, told⟩ := List.mem_filterMap.mp member
  have opened : kind = .control → result = net.openChannel i patience .control := by
    rintro rfl
    simpa using asked
  cases result with
  | ok _ => cases told
  | error other =>
    cases told
    exact net.control_not_config i patience (opened rfl).symm

theorem PortFailure.not_config {failure : Failure} (failed : PortFailure failure) : failure.isConfig = false := by
  cases failed <;> rfl

/-- A connection is as it has been set: the host, how it is reached, and how messages are signed. -/
structure ConnectionInfo.SameSettings (i i' : ConnectionInfo) : Prop where
  ip : i'.ip = i.ip
  transport : i'.transport = i.transport
  scheme : i'.signatureScheme = i.signatureScheme

theorem ConnectionInfo.SameSettings.refl (i : ConnectionInfo) : SameSettings i i := ⟨rfl, rfl, rfl⟩

namespace Ports

theorem settings_set {slot : Slot} (known : slot ∈ slots) (i : ConnectionInfo) (n : Nat) :
    i.SameSettings (slot.set i n) := by
  simp only [slots, List.mem_cons, List.not_mem_nil, or_false] at known
  rcases known with rfl | rfl | rfl | rfl | rfl <;> exact ⟨rfl, rfl, rfl⟩

theorem settings_fill (picker : PortPicker) {chosen : List Slot} (known : chosen ⊆ slots) (reserved : List Nat)
    (info : ConnectionInfo) (asked : Nat) : info.SameSettings (fill picker chosen reserved info asked).2.1 := by
  induction chosen generalizing reserved info asked with
  | nil => exact .refl info
  | cons slot rest ih =>
    have others : rest ⊆ slots := fun _ member => known (List.mem_cons_of_mem _ member)
    unfold fill
    split
    · exact ih others reserved info asked
    · cases find picker slot.label reserved 10 asked with
      | mk result asked' =>
        cases result with
        | error failure => exact .refl info
        | ok port =>
          have filled := settings_set (known (List.mem_cons_self ..)) info port
          have later := ih others (reserved ++ [port]) (slot.set info port) asked'
          exact ⟨later.ip.trans filled.ip, later.transport.trans filled.transport,
            later.scheme.trans filled.scheme⟩

end Ports

namespace ConnectionFile

variable {f : ConnectionFile}

/-- What is refused before anything is written is refused as a setting that is not allowed. -/
theorem validate_cases (scheme : f.info.signatureScheme = "hmac-sha256") :
    (f.validate = .ok () ∧ f.info.transport = "tcp" ∧ isLocalAddress f.info.ip = true) ∨
    (∃ refusal, f.validate = .error (.config refusal)) ∧
      (f.info.transport ≠ "tcp" ∨ isLocalAddress f.info.ip = false) := by
  unfold validate
  by_cases transport : f.info.transport = "tcp"
  · cases here : isLocalAddress f.info.ip with
    | true => exact Or.inl (by simp [transport, scheme])
    | false => exact Or.inr ⟨⟨_, by simp [transport]; rfl⟩, Or.inr rfl⟩
  · exact Or.inr ⟨⟨_, by rw [if_pos transport]⟩, Or.inl transport⟩

theorem validate_generateKey (valid : f.validate = .ok ()) (octets : Bytes) :
    (f.generateKey octets).validate = .ok () := by
  unfold validate at valid ⊢
  split at valid
  · cases valid
  rename_i tcp
  split at valid
  · cases valid
  rename_i here
  rw [if_neg (show ¬(f.generateKey octets).info.transport ≠ "tcp" from tcp),
    if_neg (show ¬(!isLocalAddress (f.generateKey octets).info.ip) = true from here)]
  rfl

theorem Drafted.settings {disk : Disk} {info : ConnectionInfo} {asked : Nat} (drafted : f.Drafted disk info asked) :
    f.info.SameSettings info := by
  cases drafted with
  | unchanged => exact .refl f.info
  | assigned assigned =>
    have filled :=
      Ports.settings_fill disk.picker (List.Subset.refl _) (f.info.ports.filter (· ≠ 0)) f.info disk.asked
    unfold Ports.assign at assigned
    rwa [assigned] at filled

theorem settings_write (f : ConnectionFile) (disk : Disk) : f.info.SameSettings (f.write disk).2.1.info := by
  obtain ⟨asked, drafted⟩ := drafted_write f disk
  exact drafted.settings

/-- A file whose settings are allowed may not be written all the same, but not because of them. -/
theorem write_not_config (valid : f.validate = .ok ()) {disk : Disk} {failure : Failure}
    (failed : (f.write disk).1 = .error failure) : failure.isConfig = false := by
  unfold write assignPorts at failed
  split at failed
  · cases failed
  simp only [valid] at failed
  cases assigned : Ports.assign disk.picker f.info disk.asked with
  | mk result after =>
    rw [assigned] at failed
    cases result with
    | error other =>
      cases failed
      exact (Ports.fill_failure (congrArg Prod.fst assigned)).not_config
    | ok _ =>
      dsimp only at failed
      cases opened : disk.tree.create f.path with
      | error fault =>
        rw [opened] at failed
        cases failed
        rfl
      | ok handle =>
        rcases filled : handle.2.fill handle.1 [] after.1.fileText with ⟨fault | _, tree⟩ <;>
          simp only [opened, filled] at failed <;> cases failed
        rfl

end ConnectionFile

namespace Manager

/-- The settings of a manager are those that it has been made with. -/
structure Configured (name : String) (options : LaunchOptions) (m : Manager) : Prop where
  name : m.name = name
  ip : m.file.info.ip = options.ip
  transport : m.file.info.transport = options.transport
  scheme : m.file.info.signatureScheme = "hmac-sha256"

variable {name : String} {options : LaunchOptions} {m m' : Manager}

theorem configured_ofSpec (name : String) (spec : KernelSpec) (options : LaunchOptions) :
    (ofSpec name spec options).Configured name options := ⟨rfl, rfl, rfl, rfl⟩

theorem Configured.of_same (configured : m.Configured name options) (same : m'.name = m.name)
    (info : m'.file.info = m.file.info) : m'.Configured name options :=
  ⟨same.trans configured.name, info ▸ configured.ip, info ▸ configured.transport, info ▸ configured.scheme⟩

theorem prepare_invalid (idle : m.hasKernel = false) {failure : Failure} (invalid : m.file.validate = .error failure)
    (disk : Disk) (octets : Bytes) (inherited : List (String × String)) (extra : List String) :
    m.prepare disk octets inherited extra = (.error failure, m, disk) := by
  simp [prepare, idle, invalid]

/-- What comes before the start of a program leaves the settings. -/
theorem Configured.prepare (configured : m.Configured name options) (disk : Disk) (octets : Bytes)
    (inherited : List (String × String)) (extra : List String) :
    (m.prepare disk octets inherited extra).2.1.Configured name options := by
  have settings := (m.file.generateKey octets).settings_write disk
  unfold Manager.prepare
  split
  · exact configured
  split
  · exact configured
  generalize (m.file.generateKey octets).write disk = wrote at settings ⊢
  obtain ⟨_ | _, file, disk⟩ := wrote <;>
    exact ⟨configured.name, settings.ip.trans configured.ip, settings.transport.trans configured.transport,
      settings.scheme⟩

/-- With settings that are allowed, nothing is refused for the sake of the settings later on. -/
theorem prepare_not_config (valid : m.file.validate = .ok ()) (idle : m.hasKernel = false) {disk : Disk}
    {octets : Bytes} {inherited : List (String × String)} {extra : List String} {failure : Failure}
    (failed : (m.prepare disk octets inherited extra).1 = .error failure) : failure.isConfig = false := by
  have kinds := @ConnectionFile.write_not_config _ (ConnectionFile.validate_generateKey valid octets) disk
  unfold Manager.prepare at failed
  rw [if_neg (by simp [idle]), valid] at failed
  dsimp only at failed
  generalize (m.file.generateKey octets).write disk = wrote at kinds failed
  obtain ⟨other | _, file, disk⟩ := wrote
  · cases failed
    exact kinds rfl
  · dsimp only at failed
    unfold Command.build at failed
    split at failed <;> cases failed
    rfl

end Manager

namespace Supervision

variable {name : String} {spec : KernelSpec} {options : LaunchOptions} {s s' : Supervision} {trace : List Event}

/-- A launch, once the command is known, ends with a success or a failure; who opens the control line is the only one
that may call a setting not allowed. -/
theorem launch_ends (s : Supervision) (command : Command) :
    (∃ failure, (s.launch command).1 = .error failure ∧
      (failure.isConfig = true → s.premises.scene.exchange.refused.lookup .control = some failure)) ∨
    (s.launch command).1 = .ok () := by
  rw [launch_eq]
  cases Program.start s.premises.disk.tree command s.premises.now with
  | error fault => exact Or.inl ⟨_, rfl, nofun⟩
  | ok program =>
    rcases settleLaunch_ends (s.takeCharge program) s.premises.children.length with
      ⟨failure, p, failed, -, kind⟩ | ⟨p, control, watch, opened, -⟩
    · exact Or.inl ⟨failure, congrArg Prod.fst failed, kind⟩
    · exact Or.inr (congrArg Prod.fst opened)

theorem configured_letGo (configured : s.manager.Configured name options) :
    s.letGo.manager.Configured name options := by
  refine configured.of_same rfl ?_
  rw [file_letGo]

theorem configured_launch (configured : s.manager.Configured name options) (command : Command) :
    (s.launch command).2.manager.Configured name options := by
  rw [launch_eq]
  cases Program.start s.premises.disk.tree command s.premises.now with
  | error fault =>
    refine configured.of_same rfl ?_
    show (s.manager.file.cleanup s.disk).1.info = s.manager.file.info
    rw [ConnectionFile.written_cleanup]
  | ok program =>
    have taken : (s.takeCharge program).manager.Configured name options := configured.of_same rfl rfl
    rcases settleLaunch_ends (s.takeCharge program) s.premises.children.length with
      ⟨failure, p, failed, -, -⟩ | ⟨p, control, watch, opened, -⟩
    · simp only [failed]
      exact configured_letGo taken
    · simp only [opened]
      exact taken.of_same rfl rfl

theorem configured_start (configured : s.manager.Configured name options) (extra : List String) :
    (s.start extra).2.manager.Configured name options := by
  have kept := configured.prepare s.disk (s.premises.draw.1.take keyLength) s.inherited extra
  cases made : s.manager.prepare s.disk (s.premises.draw.1.take keyLength) s.inherited extra with
  | mk command after =>
    obtain ⟨m, disk⟩ := after
    rw [made] at kept
    obtain ⟨state, failed, goesOn⟩ := start_of_prepare made
    have ready : (s.prepared extra).manager.Configured name options := by rwa [state]
    cases command with
    | error failure =>
      rw [failed failure rfl]
      exact ready
    | ok command =>
      rw [goesOn command rfl]
      exact configured_launch ready command

theorem Run.configured (run : Run name spec options trace s) : s.manager.Configured name options := by
  induction run with
  | new made =>
    rw [made]
    exact Manager.configured_ofSpec name spec options
  | start extra _ _ ih => exact configured_start ih extra
  | shutdown _ ih =>
    refine ih.of_same (name_shutdown _) ?_
    rw [file_shutdown]
  | elsewhere p _ ih => exact ih

/-- A launch that fails before anything is written finds and leaves everything as it is; a random number has been
drawn. -/
theorem start_untouched {failure : Failure} {extra : List String}
    (refused : ∀ octets, s.manager.prepare s.disk octets s.inherited extra = (.error failure, s.manager, s.disk)) :
    s.start extra = (.error failure, { s with premises := s.premises.draw.2 }) := by
  obtain ⟨state, failed, -⟩ := start_of_prepare (refused (s.premises.draw.1.take keyLength))
  rw [failed failure rfl, state]
  rfl

theorem start_not_config (idle : s.manager.hasKernel = false) (valid : s.manager.file.validate = .ok ())
    (opens : ∀ failure, s.premises.scene.exchange.refused.lookup .control = some failure → failure.isConfig = false)
    {extra : List String} {failure : Failure} (failed : (s.start extra).1 = .error failure) :
    failure.isConfig = false := by
  cases made : s.manager.prepare s.disk (s.premises.draw.1.take keyLength) s.inherited extra with
  | mk command after =>
    obtain ⟨m, disk⟩ := after
    obtain ⟨state, early, goesOn⟩ := start_of_prepare made
    cases command with
    | error other =>
      rw [early other rfl] at failed
      cases failed
      exact Manager.prepare_not_config valid idle (congrArg Prod.fst made)
    | ok command =>
      rw [goesOn command rfl] at failed
      rcases launch_ends (s.prepared extra) command with ⟨other, ended, kind⟩ | ended
      · cases failed.symm.trans ended
        rw [Bool.eq_false_iff]
        intro config
        have refused := kind config
        rw [state] at refused
        cases (opens failure refused).symm.trans config
      · cases failed.symm.trans ended

/-- A launch without a kernel is refused as a configuration exactly if the transport is not TCP or the host is not this
machine. Then, and if a kernel is already running, everything is as it was, but for a random number that has been
drawn. -/
theorem Run.start_refused_iff (run : Run name spec options trace s) (extra : List String)
    (opens : (∃ net info patience, s.premises.scene.exchange.refused = Network.refused net info patience) ∨
      ∀ failure, s.premises.scene.exchange.refused.lookup .control = some failure → failure.isConfig = false) :
    (s.manager.hasKernel = false → ((∃ refusal, (s.start extra).1 = .error (.config refusal)) ↔
      options.transport ≠ "tcp" ∨ isLocalAddress options.ip = false)) ∧
    (s.manager.hasKernel = true → (s.start extra).1 = .error (.config (.alreadyRunning name))) ∧
    ∀ refusal, (s.start extra).1 = .error (.config refusal) →
      (s.start extra).2 = { s with premises := { s.premises with drawn := s.premises.drawn + 1 } } := by
  have allowed : ∀ failure, s.premises.scene.exchange.refused.lookup .control = some failure →
      failure.isConfig = false := by
    intro failure refused
    rcases opens with ⟨net, info, patience, known⟩ | injected
    · rw [known] at refused
      exact net.lookup_refused_control info patience refused
    · exact injected failure refused
  have configured := run.configured
  cases kernel : s.manager.hasKernel with
  | true =>
    have busy := @start_untouched s (.config (.alreadyRunning s.manager.name)) extra
      fun octets => by simp [Manager.prepare, kernel]
    rw [busy]
    exact ⟨fun idle => absurd idle.symm Bool.false_ne_true, fun _ => by rw [configured.name], fun _ _ => rfl⟩
  | false =>
    rw [← configured.transport, ← configured.ip]
    rcases ConnectionFile.validate_cases configured.scheme with ⟨valid, tcp, here⟩ | ⟨⟨refusal, invalid⟩, reason⟩
    · -- with settings that are allowed nothing behind the check fails because of them
      have fine (refusal : Refusal) : (s.start extra).1 ≠ .error (.config refusal) := by
        intro failed
        cases start_not_config kernel valid allowed failed
      refine ⟨fun _ => iff_of_false (not_exists.mpr fine) ?_, fun busy => absurd busy Bool.false_ne_true, ?_⟩
      · rintro (other | away)
        · exact other tcp
        · cases here.symm.trans away
      · intro refusal failed
        exact absurd failed (fine refusal)
    · have refused := @start_untouched s (.config refusal) extra
        fun octets => Manager.prepare_invalid kernel invalid s.disk octets s.inherited extra
      rw [refused]
      exact ⟨fun _ => iff_of_true ⟨refusal, rfl⟩ reason, fun busy => absurd busy Bool.false_ne_true, fun _ _ => rfl⟩

/-- A fresh manager that is to launch on another machine. -/
def remote : Supervision :=
  { fresh [] with
    manager := .ofSpec "kernel" (fresh []).manager.spec { (fresh []).manager.options with ip := "192.168.1.20" } }

theorem Run.remote_refused : ∃ refusal, (remote.start []).1 = .error (.config refusal) ∧
    (remote.start []).2 = { remote with premises := { remote.premises with drawn := 1 } } := by
  have away : isLocalAddress "192.168.1.20" = false := by cbv
  have reachable (failure : Failure)
      (refused : remote.premises.scene.exchange.refused.lookup .control = some failure) :
      failure.isConfig = false := by cases refused
  obtain ⟨refused, -, untouched⟩ := Run.start_refused_iff (s := remote) (.new rfl) [] (.inr reachable)
  obtain ⟨refusal, failed⟩ := (refused rfl).mpr (.inr away)
  exact ⟨refusal, failed, untouched refusal failed⟩

end Supervision
end KernelLink
