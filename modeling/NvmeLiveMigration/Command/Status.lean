import NvmeLiveMigration.Command.Cdq
import NvmeLiveMigration.Command.Output

/-! Return codes. Delete CDQ, Track Send and the CDQ feature handlers return the device call's
value, or a negative code when they stop before it. Create CDQ returns a positive `EINVAL` for a
bad size (line 132); Migration Receive ends with `return 0` on every path after the command (line
833) and never notices a failed `fopen` (line 789); Migration Send aborts in `_cleanup_file_`
once it has closed its input file (line 428). -/

namespace Lm.Command

section Codes
variable (io : Collaborators)

theorem lmDeleteCdq_exit (cfg : DeleteCdqConfig) :
    (lmDeleteCdq io cfg).exit = .returned (io.submitAdminPassthru (deleteCdqCmd cfg)).1 := rfl

theorem lmSetCdq_exit (cfg : SetCdqConfig) :
    (lmSetCdq io cfg).exit = .returned (io.setFeatures (setCdqArgs cfg)) := rfl

theorem lmTrackSend_exit (cfg : TrackSendConfig) :
    (lmTrackSend io cfg).exit =
      if cfg.select = trackSendSelectLogUserDataChanges ∧ ¬(cfg.start ∧ cfg.stop) then
        .returned (io.submitAdminPassthru (trackSendCmd cfg)).1
      else .returned (-einval) := by
  unfold lmTrackSend
  simp only [selectIsUnset_eq_false, Bool.false_eq_true, if_false]
  split_ifs <;> simp_all

theorem lmGetCdq_exit (cfg : GetCdqConfig) :
    (lmGetCdq io cfg).exit =
      if (io.validateOutputFormat cfg.outputFormat).1 < 0 then
        .returned (io.validateOutputFormat cfg.outputFormat).1
      else .returned (io.getFeatures (getCdqArgs cfg)).1 := by
  unfold lmGetCdq
  rcases io.validateOutputFormat cfg.outputFormat with ⟨err, flags⟩
  dsimp only
  split_ifs <;> rfl

end Codes

/-- Delete CDQ, Track Send, Set CDQ and Get CDQ return the device's status unchanged when they
reach the device, and a negative code when they stop before it. -/
theorem delete_track_set_get_report_status (io : Collaborators) :
    (∀ cfg, (lmDeleteCdq io cfg).exit = .returned (io.submitAdminPassthru (deleteCdqCmd cfg)).1) ∧
    (∀ cfg, (∀ cmd, (lmTrackSend io cfg).submitted = some cmd →
        (lmTrackSend io cfg).exit = .returned (io.submitAdminPassthru cmd).1) ∧
      ((lmTrackSend io cfg).submitted = none → ∃ c < 0, (lmTrackSend io cfg).exit = .returned c)) ∧
    (∀ cfg, (lmSetCdq io cfg).exit = .returned (io.setFeatures (setCdqArgs cfg))) ∧
    (∀ cfg, (∀ args, (lmGetCdq io cfg).featureGet = some args →
        (lmGetCdq io cfg).exit = .returned (io.getFeatures args).1) ∧
      ((lmGetCdq io cfg).featureGet = none → ∃ c < 0, (lmGetCdq io cfg).exit = .returned c)) := by
  refine ⟨lmDeleteCdq_exit io, fun cfg => ⟨fun cmd h => ?_, fun h => ?_⟩, lmSetCdq_exit io,
    fun cfg => ⟨fun args h => ?_, fun h => ?_⟩⟩
  · rw [lmTrackSend_submitted] at h
    rw [lmTrackSend_exit]
    split_ifs at h ⊢
    cases h
    rfl
  · rw [lmTrackSend_submitted] at h
    rw [lmTrackSend_exit]
    split_ifs at h ⊢
    exact ⟨-einval, by decide, rfl⟩
  · rw [lmGetCdq_featureGet] at h
    rw [lmGetCdq_exit]
    split_ifs at h ⊢
    cases h
    rfl
  · rw [lmGetCdq_featureGet] at h
    rw [lmGetCdq_exit]
    split_ifs at h ⊢ with hv
    exact ⟨_, hv, rfl⟩

/-- The device answers every admin command with the status `0x4002`. -/
def Collaborators.deviceStatus : Collaborators :=
  { Collaborators.succeeding with submitAdminPassthru := fun _ => (0x4002, 0, fun _ => 0) }

/-- `fread` meets end of file at once, leaving `errno` at 0. -/
def Collaborators.emptyFile : Collaborators :=
  { Collaborators.succeeding with fread := fun _ => 0 }

/-- Every `fopen` fails. -/
def Collaborators.noFiles : Collaborators :=
  { Collaborators.succeeding with fopen := fun _ _ => false }

/-- A Set Controller State of one dword from the file `state.bin`. -/
def setStateOneDword : MigrationSendConfig :=
  { MigrationSendConfig.default with
    sel := migrationSendSetControllerState, numd := 1, input := some "state.bin" }

/-- Four runs that return no code matching the device call: a rejected Create CDQ size returns
`+EINVAL`; a Migration Receive returns 0 after the device reported `0x4002`; a Migration Send
whose payload read hits end of file prints its error and then aborts instead of returning; a
Migration Receive whose output file cannot be opened still sends its command. -/
theorem status_codes_misreported :
    (lmCreateCdq Collaborators.succeeding ⟨7, 0, 0⟩).exit = .returned 22 ∧
      (lmCreateCdq Collaborators.succeeding ⟨7, 0, 0⟩).submitted = none ∧
    (lmMigrationRecv Collaborators.deviceStatus MigrationRecvConfig.default).submitted.isSome ∧
      (lmMigrationRecv Collaborators.deviceStatus MigrationRecvConfig.default).exit = .returned 0 ∧
    (lmMigrationSend Collaborators.emptyFile setStateOneDword).submitted = none ∧
      (lmMigrationSend Collaborators.emptyFile setStateOneDword).exit =
        .crashed "fclose of a closed FILE" ∧
    (lmMigrationRecv Collaborators.noFiles
      { MigrationRecvConfig.default with output := some "state.bin" }).submitted.isSome :=
  ⟨rfl, rfl, rfl, rfl, rfl, rfl, rfl⟩

/-! ## Failures the user is told about -/

/-- An event that tells the user about a failure: an error message, a `perror` or a device
status. -/
def Event.reportsFailure : Event → Bool
  | .showError _ _ | .showPerror _ | .showStatus _ => true
  | _ => false

/-- The run returns a non-zero code and prints nothing about a failure. -/
def Run.FailsSilently (r : Run) : Prop :=
  (∃ code, code ≠ 0 ∧ r.exit = .returned code) ∧ ∀ e ∈ r.events, e.reportsFailure = false

section Silent
variable (io : Collaborators)

theorem Run.failsSilently_iff (r : Run) : r.FailsSilently ↔
    (∃ code, code ≠ 0 ∧ r.exit = .returned code) ∧ r.events.any Event.reportsFailure = false := by
  simp only [Run.FailsSilently, List.any_eq_false, Bool.not_eq_true]

theorem Run.not_failsSilently_of_any {r : Run} (h : r.events.any Event.reportsFailure = true) :
    ¬r.FailsSilently := fun hs => by
  rw [((Run.failsSilently_iff r).1 hs).2] at h
  cases h

theorem Run.not_failsSilently_of_exit {r : Run} (h : ∀ code, r.exit = .returned code → code = 0) :
    ¬r.FailsSilently :=
  fun ⟨⟨code, hc, he⟩, _⟩ => hc (h code he)

theorem failsSilently_fail_iff (events : List Event) (code : Int) :
    (Run.fail events code).FailsSilently ↔ code ≠ 0 ∧ events.any Event.reportsFailure = false := by
  simp only [Run.failsSilently_iff, Run.fail_exit, Run.fail_events, Exit.returned.injEq,
    exists_eq_right']

theorem Run.FailsSilently.of_after {pre : List Event} {r : Run} (h : (Run.after pre r).FailsSilently) :
    r.FailsSilently :=
  ⟨h.1, fun e he => h.2 e (List.mem_append_right _ he)⟩

theorem not_failsSilently_reportStatus (pre : List Event) (err : Int) (success : Event)
    (failure : String) : ¬(Run.mk (pre ++ reportStatus err success failure) (.returned err)).FailsSilently := by
  by_cases h : err = 0
  · exact Run.not_failsSilently_of_exit fun code hc => by cases hc; exact h
  · refine Run.not_failsSilently_of_any ?_
    simp only [List.any_append, reportStatus, if_neg h, Bool.or_eq_true]
    split_ifs <;> exact .inr rfl

theorem not_failsSilently_cleanupFile (r : Run) : ¬(cleanupFile r).FailsSilently :=
  Run.not_failsSilently_of_exit fun _ h => by cases h

theorem not_failsSilently_migrationSendSubmit (cfg : MigrationSendConfig) (data : UInt64) :
    ¬(migrationSendSubmit io cfg data).FailsSilently := by
  unfold migrationSendSubmit
  rcases io.submitAdminPassthru (migrationSendCmd cfg data) with ⟨err, _, _⟩
  exact not_failsSilently_reportStatus [.submit _] _ _ _

theorem migrationRecvShow_exit (cfg : MigrationRecvConfig) (flags : StateData.PrintFlags)
    (stream : Option Bool) (result : UInt32) (buf : Nat → UInt8) :
    ∀ code, (migrationRecvShow io cfg flags stream result buf).exit = .returned code → code = 0 := by
  intro code h
  unfold migrationRecvShow at h
  rcases stream with _ | _ | _ <;> dsimp only at h
  · exact (Exit.returned.inj h).symm
  all_goals split_ifs at h <;> cases h <;> rfl

theorem migrationSendPayload_failsSilently_iff (cfg : MigrationSendConfig) :
    (migrationSendPayload io cfg).FailsSilently ↔ ∃ path, cfg.input = some path ∧
      path.length ≠ 0 ∧ io.fopen path "r" = true ∧ io.allocHuge (cfg.numd <<< 2).toNat = 0 := by
  unfold migrationSendPayload
  rcases cfg.input with _ | path
  · simp only [not_failsSilently_migrationSendSubmit, reduceCtorEq, false_and, exists_false]
  simp only [Option.some.injEq, exists_eq_left']
  split_ifs with h1 h2 h3 h4
  · exact iff_of_true ((failsSilently_fail_iff _ _).2 ⟨by decide, rfl⟩) ⟨h1, h2, h3⟩
  · exact iff_of_false (not_failsSilently_cleanupFile _) fun h => h3 h.2.2
  · exact iff_of_false (not_failsSilently_cleanupFile _) fun h => h3 h.2.2
  · exact iff_of_false (Run.not_failsSilently_of_any rfl) fun h => h2 h.2.1
  · exact iff_of_false (not_failsSilently_migrationSendSubmit io cfg 0) fun h => h1 h.1

theorem lmCreateCdq_not_failsSilently (cfg : CreateCdqConfig) : ¬(lmCreateCdq io cfg).FailsSilently := by
  unfold lmCreateCdq
  dsimp only
  split_ifs
  · exact Run.not_failsSilently_of_any rfl
  · exact Run.not_failsSilently_of_any rfl
  · exact not_failsSilently_reportStatus [_, _] _ _ _

theorem lmDeleteCdq_not_failsSilently (cfg : DeleteCdqConfig) : ¬(lmDeleteCdq io cfg).FailsSilently := by
  unfold lmDeleteCdq
  rcases io.submitAdminPassthru (deleteCdqCmd cfg) with ⟨err, _, _⟩
  exact not_failsSilently_reportStatus [_] _ _ _

theorem lmTrackSend_not_failsSilently (cfg : TrackSendConfig) : ¬(lmTrackSend io cfg).FailsSilently := by
  unfold lmTrackSend
  split_ifs
  iterate 3 exact Run.not_failsSilently_of_any rfl
  rcases io.submitAdminPassthru (trackSendCmd cfg) with ⟨err, _, _⟩
  exact not_failsSilently_reportStatus [_] _ _ _

theorem lmSetCdq_not_failsSilently (cfg : SetCdqConfig) : ¬(lmSetCdq io cfg).FailsSilently :=
  not_failsSilently_reportStatus [_] _ _ _

theorem lmGetCdq_not_failsSilently (cfg : GetCdqConfig) : ¬(lmGetCdq io cfg).FailsSilently := by
  unfold lmGetCdq
  rcases io.validateOutputFormat cfg.outputFormat with ⟨err, flags⟩
  dsimp only
  split_ifs
  · exact Run.not_failsSilently_of_any rfl
  · rcases io.getFeatures (getCdqArgs cfg) with ⟨err, _⟩
    exact not_failsSilently_reportStatus [_] _ _ _

theorem lmMigrationSend_failsSilently_iff (cfg : MigrationSendConfig) :
    (lmMigrationSend io cfg).FailsSilently ↔ migrationSendChecks cfg = true ∧
      ∃ path, cfg.input = some path ∧ path.length ≠ 0 ∧ io.fopen path "r" = true ∧
        io.allocHuge (cfg.numd <<< 2).toNat = 0 := by
  rcases lmMigrationSend_cases io cfg with ⟨hc, hr⟩ | ⟨hc, hr | hr | hr⟩
  · rw [hr, migrationSendPayload_failsSilently_iff, hc]
    exact (and_iff_right rfl).symm
  all_goals simp only [hc, hr, Bool.false_eq_true, false_and, iff_false]
  · exact Run.not_failsSilently_of_any rfl
  · exact Run.not_failsSilently_of_any rfl
  · exact Run.not_failsSilently_of_exit fun _ h => nomatch h

theorem migrationSendPayload_allocFails {cfg : MigrationSendConfig} {path : String}
    (hin : cfg.input = some path) (hl : path.length ≠ 0) (hf : io.fopen path "r" = true)
    (ha : io.allocHuge (cfg.numd <<< 2).toNat = 0) :
    migrationSendPayload io cfg =
      .fail [.fopen path "r", .allocHuge (cfg.numd <<< 2).toNat] (-enomem) := by
  simp only [migrationSendPayload, hin, if_pos hl, hf, if_true, ha]

theorem lmMigrationSend_exit_of_failsSilently {cfg : MigrationSendConfig}
    (h : (lmMigrationSend io cfg).FailsSilently) :
    (lmMigrationSend io cfg).exit = .returned (-enomem) := by
  obtain ⟨hc, path, hin, hl, hf, ha⟩ := (lmMigrationSend_failsSilently_iff io cfg).1 h
  rcases lmMigrationSend_cases io cfg with ⟨-, hr⟩ | ⟨hc', -⟩
  · rw [hr, migrationSendPayload_allocFails io hin hl hf ha]
    rfl
  · exact absurd hc (by rw [hc']; decide)

theorem lmMigrationRecv_failsSilently_iff (cfg : MigrationRecvConfig) :
    (lmMigrationRecv io cfg).FailsSilently ↔
      ¬(io.validateOutputFormat cfg.outputFormat).1 < 0 ∧
      ¬(cfg.offset ≠ 0 ∧ ¬(io.validateOutputFormat cfg.outputFormat).2.binary) ∧
      io.allocHuge ((cfg.numd + 1) <<< 2).toNat = 0 := by
  rcases hv : io.validateOutputFormat cfg.outputFormat with ⟨err, flags⟩
  rcases ho : migrationRecvOutput io cfg with ⟨opened, stream⟩
  have hopen := migrationRecvOutput_events io cfg
  rw [ho] at hopen
  rcases lmMigrationRecv_cases io cfg hv ho with ⟨h1, hr⟩ | ⟨h1, h2, hr⟩ | ⟨h1, h2, h3, hr⟩ |
    ⟨h1, h2, h3, status, result, buf, -, ⟨-, hr⟩ | ⟨-, -, hr⟩ | ⟨-, hr⟩⟩ <;> rw [hr]
  · exact iff_of_false (Run.not_failsSilently_of_any rfl) fun h => h.1 h1
  · exact iff_of_false (Run.not_failsSilently_of_any rfl) fun h => h.2.1 h2
  · refine iff_of_true ((failsSilently_fail_iff _ _).2 ⟨by decide, ?_⟩) ⟨h1, h2, h3⟩
    simp only [List.any_append, Bool.or_eq_false_iff]
    refine ⟨List.any_eq_false.2 fun e he => ?_, rfl⟩
    obtain ⟨path, rfl⟩ := hopen e he
    exact Bool.false_ne_true
  · exact iff_of_false (Run.not_failsSilently_of_exit fun _ h => (Exit.returned.inj h).symm)
      fun h => h3 h.2.2
  · exact iff_of_false (Run.not_failsSilently_of_exit fun _ h => (Exit.returned.inj h).symm)
      fun h => h3 h.2.2
  · exact iff_of_false (Run.not_failsSilently_of_exit (migrationRecvShow_exit io cfg _ _ _ _))
      fun h => h3 h.2.2

theorem lmMigrationRecv_exit_of_failsSilently {cfg : MigrationRecvConfig}
    (h : (lmMigrationRecv io cfg).FailsSilently) :
    (lmMigrationRecv io cfg).exit = .returned (-enomem) := by
  obtain ⟨h1, h2, h3⟩ := (lmMigrationRecv_failsSilently_iff io cfg).1 h
  rcases hv : io.validateOutputFormat cfg.outputFormat with ⟨err, flags⟩
  rcases ho : migrationRecvOutput io cfg with ⟨opened, stream⟩
  rw [hv] at h1 h2
  rcases lmMigrationRecv_cases io cfg hv ho with ⟨h1', -⟩ | ⟨-, h2', -⟩ | ⟨-, -, -, hr⟩ |
    ⟨-, -, h3', -⟩
  · exact absurd h1' h1
  · exact absurd h2' h2
  · rw [hr]
    rfl
  · exact absurd h3 h3'

end Silent

/-- The only runs that return a non-zero code without a message, a `perror` or a device status
are the `return -ENOMEM` of Migration Send (line 424) and Migration Receive (line 797) after
`nvme_alloc_huge` fails. -/
theorem failsSilently_iff_allocation (io : Collaborators) :
    (∀ cfg, ¬(lmCreateCdq io cfg).FailsSilently) ∧ (∀ cfg, ¬(lmDeleteCdq io cfg).FailsSilently) ∧
    (∀ cfg, ¬(lmTrackSend io cfg).FailsSilently) ∧ (∀ cfg, ¬(lmSetCdq io cfg).FailsSilently) ∧
    (∀ cfg, ¬(lmGetCdq io cfg).FailsSilently) ∧
    (∀ cfg, (lmMigrationSend io cfg).FailsSilently ↔ migrationSendChecks cfg = true ∧
      ∃ path, cfg.input = some path ∧ path.length ≠ 0 ∧ io.fopen path "r" = true ∧
        io.allocHuge (cfg.numd <<< 2).toNat = 0) ∧
    (∀ cfg, (lmMigrationRecv io cfg).FailsSilently ↔
      ¬(io.validateOutputFormat cfg.outputFormat).1 < 0 ∧
      ¬(cfg.offset ≠ 0 ∧ ¬(io.validateOutputFormat cfg.outputFormat).2.binary) ∧
      io.allocHuge ((cfg.numd + 1) <<< 2).toNat = 0) ∧
    (∀ cfg, (lmMigrationSend io cfg).FailsSilently →
      (lmMigrationSend io cfg).exit = .returned (-enomem)) ∧
    (∀ cfg, (lmMigrationRecv io cfg).FailsSilently →
      (lmMigrationRecv io cfg).exit = .returned (-enomem)) :=
  ⟨lmCreateCdq_not_failsSilently io, lmDeleteCdq_not_failsSilently io,
    lmTrackSend_not_failsSilently io, lmSetCdq_not_failsSilently io, lmGetCdq_not_failsSilently io,
    lmMigrationSend_failsSilently_iff io, lmMigrationRecv_failsSilently_iff io,
    fun _ => lmMigrationSend_exit_of_failsSilently io, fun _ => lmMigrationRecv_exit_of_failsSilently io⟩

/-! ## The second `fclose` of Migration Send -/

theorem migrationSendPayload_aborts_iff (io : Collaborators) (cfg : MigrationSendConfig) :
    (migrationSendPayload io cfg).exit = .crashed "fclose of a closed FILE" ↔ ∃ path,
      cfg.input = some path ∧ path.length ≠ 0 ∧ io.fopen path "r" = true ∧
        io.allocHuge (cfg.numd <<< 2).toNat ≠ 0 := by
  unfold migrationSendPayload
  rcases cfg.input with _ | path
  · exact iff_of_false (fun h => by cases h) fun ⟨_, h, _⟩ => nomatch h
  simp only [Option.some.injEq, exists_eq_left']
  split_ifs with h1 h2 h3
  · exact iff_of_false (fun h => by cases h) fun h => h.2.2 h3
  · exact iff_of_true rfl ⟨h1, h2, h3⟩
  · exact iff_of_true rfl ⟨h1, h2, h3⟩
  · exact iff_of_false (fun h => by cases h) fun h => h2 h.2.1
  · exact iff_of_false (fun h => by cases h) fun h => h1 h.1

/-- `lm_migration_send` never returns once it has opened its input file and allocated the
payload buffer: it reaches `fclose(file)` at line 428, and `_cleanup_file_` closes the same
stream again on return, after a short read as after the command. -/
theorem lmMigrationSend_aborts_iff (io : Collaborators) (cfg : MigrationSendConfig) :
    (lmMigrationSend io cfg).exit = .crashed "fclose of a closed FILE" ↔
      migrationSendChecks cfg = true ∧ ∃ path, cfg.input = some path ∧ path.length ≠ 0 ∧
        io.fopen path "r" = true ∧ io.allocHuge (cfg.numd <<< 2).toNat ≠ 0 := by
  rcases lmMigrationSend_cases io cfg with ⟨hc, hr⟩ | ⟨hc, hr | hr | hr⟩
  · rw [hr, migrationSendPayload_aborts_iff, hc]
    exact (and_iff_right rfl).symm
  all_goals simp only [hc, hr, Bool.false_eq_true, false_and, iff_false, Run.fail_exit,
    reduceCtorEq, not_false_eq_true]
  decide

end Lm.Command
