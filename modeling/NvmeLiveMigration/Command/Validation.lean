import NvmeLiveMigration.Command.Cdq
import NvmeLiveMigration.Command.Migration

/-! The validation rules of the four handlers that check their descriptor, against the guards
that implement them: lines 130-133 (`lm_create_cdq`), 262-281 (`lm_track_send`), 391-412
(`lm_migration_send`) and 773-782 (`lm_migration_recv`). Create CDQ, Track Send and Migration
Receive reach the device exactly for the descriptors their rule admits. Migration Send does
not: its `select == -1` test compares a `__u8` with `-1` and never fires, and no test rejects a
select outside Suspend, Resume and Set Controller State. -/

namespace Lm.Command

/-- Collaborators under which `nvme_alloc_huge` never returns `NULL`. -/
def Collaborators.Reliable (io : Collaborators) : Prop := ∀ n, io.allocHuge n ≠ 0

theorem Collaborators.succeeding_reliable : Collaborators.succeeding.Reliable :=
  fun _ h => absurd h (by decide : (0x1000 : UInt64) ≠ 0)

/-- Create CDQ: the size in dwords is a multiple of the 8-dword queue entry. -/
def CreateCdqRule (cfg : CreateCdqConfig) : Prop := cfg.sz.toNat % 8 = 0

/-- Track Send: the select is given and is Log User Data Changes, and `--start` and `--stop` are
not both set. The unset select is `0xFF`. -/
def TrackSendRule (cfg : TrackSendConfig) : Prop := cfg.select = 0 ∧ ¬(cfg.start ∧ cfg.stop)

/-- Migration Send: the select is given and is Suspend, Resume or Set Controller State; Suspend
and Resume carry no controller state indices; Set Controller State carries no delete flag and
no suspend type, and names an input file. -/
def MigrationSendRule (cfg : MigrationSendConfig) : Prop :=
  (cfg.sel = 0 ∨ cfg.sel = 1 ∨ cfg.sel = 2) ∧
    (cfg.sel = 0 ∨ cfg.sel = 1 → cfg.csuuidi = 0 ∧ cfg.csvi = 0) ∧
    (cfg.sel = 2 → cfg.delete = false ∧ cfg.stype = 0 ∧
      ∃ path, cfg.input = some path ∧ path.length ≠ 0)

/-- Migration Receive: the output format is valid, and a non-zero offset asks for binary
output. -/
def MigrationRecvRule (io : Collaborators) (cfg : MigrationRecvConfig) : Prop :=
  0 ≤ (io.validateOutputFormat cfg.outputFormat).1 ∧
    (cfg.offset ≠ 0 → (io.validateOutputFormat cfg.outputFormat).2.binary = true)

section Rules
variable (io : Collaborators)

theorem lmCreateCdq_submitted_isSome (hio : io.Reliable) (cfg : CreateCdqConfig) :
    (lmCreateCdq io cfg).submitted.isSome ↔ CreateCdqRule cfg := by
  rw [lmCreateCdq_submitted]
  split_ifs with h
  · simpa [CreateCdqRule] using h.1
  · simpa [CreateCdqRule, hio _] using h

theorem lmTrackSend_submitted_isSome (cfg : TrackSendConfig) :
    (lmTrackSend io cfg).submitted.isSome ↔ TrackSendRule cfg := by
  rw [lmTrackSend_submitted]
  split_ifs with h <;> simpa [TrackSendRule, trackSendSelectLogUserDataChanges] using h

theorem lmMigrationRecv_submitted_isSome (hio : io.Reliable) (cfg : MigrationRecvConfig) :
    (lmMigrationRecv io cfg).submitted.isSome ↔ MigrationRecvRule io cfg := by
  rw [lmMigrationRecv_submitted, MigrationRecvRule]
  have := hio ((cfg.numd + 1) <<< 2).toNat
  split_ifs with h
  · simp only [Option.isSome_none, Bool.false_eq_true, false_iff, not_and, Bool.not_eq_true]
    intro h0 hb
    rcases h with h | ⟨h1, h2⟩ | h
    · omega
    · simp_all
    · exact this h
  · simp only [Option.isSome_some, true_iff]
    push_neg at h
    exact ⟨h.1, fun h0 => by simpa using h.2.1 h0⟩

theorem payloadBuffer_isSome (hio : io.Reliable) (hf : ∀ path, io.fopen path "r" = true)
    (hr : ∀ n, io.fread n = n) (cfg : MigrationSendConfig) : (payloadBuffer io cfg).isSome := by
  unfold payloadBuffer
  rcases cfg.input with _ | path
  · rfl
  · simp only
    split_ifs with h1 h2
    · rfl
    · exact absurd ⟨hf path, hio _, hr _⟩ h2
    · rfl

theorem lmMigrationSend_submitted_isSome (hio : io.Reliable) (hf : ∀ path, io.fopen path "r" = true)
    (hr : ∀ n, io.fread n = n) (cfg : MigrationSendConfig) :
    (lmMigrationSend io cfg).submitted.isSome ↔ migrationSendChecks cfg = true := by
  rw [lmMigrationSend_submitted]
  split_ifs with h
  · simpa [h] using payloadBuffer_isSome io hio hf hr cfg
  · simpa using h

end Rules

theorem migrationSendRule_iff_checks (cfg : MigrationSendConfig) :
    MigrationSendRule cfg ↔
      migrationSendChecks cfg = true ∧ (cfg.sel = 0 ∨ cfg.sel = 1 ∨ cfg.sel = 2) := by
  unfold MigrationSendRule migrationSendChecks
  simp only [migrationSendSuspend, migrationSendResume, migrationSendSetControllerState]
  by_cases h01 : cfg.sel = 0 ∨ cfg.sel = 1
  · have h2 : cfg.sel ≠ 2 := by rcases h01 with h | h <;> rw [h] <;> decide
    simp [h01, h2]
  · have h0 : cfg.sel ≠ 0 := fun h => h01 (Or.inl h)
    have h1 : cfg.sel ≠ 1 := fun h => h01 (Or.inr h)
    by_cases h2 : cfg.sel = 2
    · rcases cfg.input with _ | path <;> simp [h0, h1, h2, and_assoc]
    · simp [h0, h1, h2]

theorem migrationSendChecks_of_select {cfg : MigrationSendConfig}
    (h : ¬(cfg.sel = 0 ∨ cfg.sel = 1 ∨ cfg.sel = 2)) : migrationSendChecks cfg = true := by
  simp only [not_or] at h
  simp only [migrationSendChecks, migrationSendSuspend, migrationSendResume,
    migrationSendSetControllerState, h.1, h.2.1, h.2.2, or_self, if_false]

/-- When allocation, `fopen` and `fread` succeed, Migration Send reaches the device exactly for
the descriptors its rule admits and for every select outside Suspend, Resume and Set Controller
State. With a select in range it never reaches the device for a descriptor the rule rejects,
whatever its collaborators do. -/
theorem migrationSend_submitted_iff_rule :
    (∀ io cfg, io.Reliable → (∀ path, io.fopen path "r" = true) → (∀ n, io.fread n = n) →
      ((lmMigrationSend io cfg).submitted.isSome ↔
        MigrationSendRule cfg ∨ ¬(cfg.sel = 0 ∨ cfg.sel = 1 ∨ cfg.sel = 2))) ∧
    (∀ io cfg, ¬MigrationSendRule cfg → (cfg.sel = 0 ∨ cfg.sel = 1 ∨ cfg.sel = 2) →
      (lmMigrationSend io cfg).submitted = none) := by
  refine ⟨fun io cfg hio hf hr => ?_, fun io cfg h hs => ?_⟩
  · rw [lmMigrationSend_submitted_isSome io hio hf hr]
    by_cases hs : cfg.sel = 0 ∨ cfg.sel = 1 ∨ cfg.sel = 2
    · simp only [migrationSendRule_iff_checks, hs, and_true, not_true_eq_false, or_false]
    · simp only [migrationSendChecks_of_select hs, hs, not_false_eq_true, or_true]
  · rw [lmMigrationSend_submitted, if_neg fun hc => h ((migrationSendRule_iff_checks cfg).2 ⟨hc, hs⟩)]

/-- Create CDQ, Track Send and Migration Receive reach the device exactly for the descriptors
their rules admit when allocation succeeds, and never for one a rule rejects. -/
theorem accepted_iff_section41 :
    (∀ io cfg, io.Reliable → ((lmCreateCdq io cfg).submitted.isSome ↔ CreateCdqRule cfg)) ∧
    (∀ io cfg, ¬CreateCdqRule cfg → (lmCreateCdq io cfg).submitted = none) ∧
    (∀ io cfg, (lmTrackSend io cfg).submitted.isSome ↔ TrackSendRule cfg) ∧
    (∀ io cfg, io.Reliable →
      ((lmMigrationRecv io cfg).submitted.isSome ↔ MigrationRecvRule io cfg)) ∧
    (∀ io cfg, ¬MigrationRecvRule io cfg → (lmMigrationRecv io cfg).submitted = none) := by
  refine ⟨fun io cfg hio => lmCreateCdq_submitted_isSome io hio cfg, fun io cfg h => ?_,
    fun io cfg => lmTrackSend_submitted_isSome io cfg,
    fun io cfg hio => lmMigrationRecv_submitted_isSome io hio cfg, fun io cfg h => ?_⟩
  · rw [lmCreateCdq_submitted, if_neg (fun h' => h h'.1)]
  · rw [lmMigrationRecv_submitted, if_pos]
    by_contra h'
    push_neg at h'
    exact h ⟨by omega, fun h0 => by simpa using h'.2.1 h0⟩

theorem mem_reportStatus {e success : Event} {err : Int} {failure : String}
    (h : e ∈ reportStatus err success failure) :
    e = success ∨ e = .showStatus err ∨ e = .showError failure [] := by
  unfold reportStatus at h
  split_ifs at h <;> simp_all

theorem showError_mem_migrationSendPayload (io : Collaborators) (cfg : MigrationSendConfig)
    {msg : String} (h : Event.showError msg [] ∈ (migrationSendPayload io cfg).events) :
    msg = "failed to read controller state data %s" ∨
      msg = "ERROR: nvme_submit_admin_passthru() failed %s" := by
  have hsub : ∀ data, Event.showError msg [] ∈ (migrationSendSubmit io cfg data).events →
      msg = "ERROR: nvme_submit_admin_passthru() failed %s" := fun data h => by
    rcases List.mem_cons.mp h with h | h
    · cases h
    · rcases mem_reportStatus h with h | h | h <;> simp_all
  rcases migrationSendPayload_cases io cfg with
    ⟨-, hr⟩ | ⟨path, -, ⟨-, hr⟩ | ⟨-, hr⟩ | ⟨-, hr⟩ | ⟨-, hr⟩⟩ <;> rw [hr] at h
  · exact .inr (hsub 0 h)
  · simp at h
  · simp at h
  · simp at h
    exact .inl h
  · simp only [cleanupFile_events, Run.after_events, List.mem_append] at h
    rcases h with h | h
    · simp at h
    · exact .inr (hsub _ h)

/-- The `select == -1` tests of Track Send and Migration Send never fire, so neither handler
prints "Select field required". Track Send still turns a missing select away, through its test
for Log User Data Changes, with the message for an unsupported select 255. -/
theorem select_required_unreachable (io : Collaborators) :
    (∀ cfg, Event.showError "Select field required" [] ∉ (lmTrackSend io cfg).events) ∧
    (∀ cfg, Event.showError "Select field required" [] ∉ (lmMigrationSend io cfg).events) ∧
    lmTrackSend io TrackSendConfig.default =
      .fail [.showError "Unsupported select option %d (%s)" [255]] (-einval) := by
  refine ⟨fun cfg h => ?_, fun cfg h => ?_, rfl⟩
  · unfold lmTrackSend at h
    simp only [selectIsUnset_eq_false, Bool.false_eq_true, if_false] at h
    split_ifs at h
    · simp [Run.fail] at h
    · simp [Run.fail] at h
    · rcases List.mem_cons.mp h with h | h
      · cases h
      · rcases mem_reportStatus h with h | h | h <;> simp at h
  · rcases lmMigrationSend_cases io cfg with ⟨-, hr⟩ | ⟨-, hr | hr | hr⟩ <;> rw [hr] at h
    · simpa using showError_mem_migrationSendPayload io cfg h
    all_goals simp at h

/-- The default `struct config` of `lm_migration_send`, with no select given, reaches the
device as a command with select `0xFF`, though the rule rejects it. -/
theorem migrationSend_unset_select_submitted :
    ¬MigrationSendRule MigrationSendConfig.default ∧
      (lmMigrationSend Collaborators.succeeding MigrationSendConfig.default).submitted =
        some (migrationSendCmd MigrationSendConfig.default 0) ∧
      bits (migrationSendCmd MigrationSendConfig.default 0).cdw10 7 0 = 0xFF :=
  ⟨fun ⟨h, _⟩ => by rcases h with h | h | h <;> exact absurd h (by decide), rfl, rfl⟩

end Lm.Command
