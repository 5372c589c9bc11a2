import NvmeLiveMigration.Command.Passthru

/-! The migration handlers: `lm_track_send`, `lm_migration_send` and `lm_migration_recv`.
`lm_migration_send` is cut at its two stages, reading the payload file and building the
command; `lm_migration_recv` hands the received buffer to `show_controller_state_data`. -/

namespace Lm.Command
open Lm.StateData

/-- The `struct config` of `lm_track_send` (lines 233-239). -/
structure TrackSendConfig where
  select : UInt8
  mos : UInt8
  cdqid : UInt16
  start : Bool
  stop : Bool
  deriving DecidableEq, Repr

/-- Its initializer: `.select = -1` stores `0xFF` in the `__u8`. -/
def TrackSendConfig.default : TrackSendConfig := ⟨0xFF, 0, 0, false, false⟩

/-- The `struct config` of `lm_migration_send` (lines 347-358); `input` is `NULL` until
`--input-file` is given. -/
structure MigrationSendConfig where
  sel : UInt8
  stype : UInt8
  seqind : UInt8
  csuuidi : UInt8
  csvi : UInt8
  cntlid : UInt16
  offset : UInt64
  numd : UInt32
  input : Option String
  delete : Bool
  deriving DecidableEq, Repr

/-- Its initializer: `.sel = -1` stores `0xFF` in the `__u8`. -/
def MigrationSendConfig.default : MigrationSendConfig := ⟨0xFF, 0, 0, 0, 0, 0, 0, 0, none, false⟩

/-- The `struct config` of `lm_migration_recv` (lines 735-744). `output_format` starts as
`"normal"` and an option only replaces it by another string, so it is never `NULL`. -/
structure MigrationRecvConfig where
  cntlid : UInt16
  csuuidi : UInt8
  csvi : UInt8
  offset : UInt64
  numd : UInt32
  output : Option String
  outputFormat : String
  humanReadable : Bool
  deriving DecidableEq, Repr

/-- Its initializer (lines 746-755). -/
def MigrationRecvConfig.default : MigrationRecvConfig := ⟨0, 0, 0, 0, 0, none, "normal", false⟩

/-- `cfg.select == -1` (lines 262 and 391) compares the `__u8` promoted to `int` with `-1`. -/
def selectIsUnset (select : UInt8) : Bool := decide ((select.toNat : Int) = -1)

theorem selectIsUnset_eq_false (select : UInt8) : selectIsUnset select = false := by
  simp only [selectIsUnset, decide_eq_false_iff_not]
  omega

/-- The management operation `lm_track_send` sends: `--start` and `--stop` override `--mos`
for Log User Data Changes. -/
def trackSendMos (cfg : TrackSendConfig) : UInt8 :=
  if cfg.select = trackSendSelectLogUserDataChanges then
    if cfg.start then trackSendManagementOperationStartLogging
    else if cfg.stop then trackSendManagementOperationStopLogging
    else cfg.mos
  else cfg.mos

/-- The command of `lm_track_send` (lines 282-286). -/
def trackSendCmd (cfg : TrackSendConfig) : PassthruCmd where
  opcode := nvmeAdminTrackSend
  cdw10 := cfg.select.toUInt32 ||| (trackSendMos cfg).toUInt32 <<< 16
  cdw11 := cfg.cdqid.toUInt32

/-- `lm_track_send` (lines 219-297) after `parse_and_open`. -/
def lmTrackSend (io : Collaborators) (cfg : TrackSendConfig) : Run :=
  if selectIsUnset cfg.select then .fail [.showError "Select field required" []] (-einval)
  else if cfg.select ≠ trackSendSelectLogUserDataChanges then
    .fail [.showError "Unsupported select option %d (%s)" [cfg.select.toNat]] (-einval)
  else if cfg.start ∧ cfg.stop then
    .fail [.showError "Must select one of start & stop, not both" []] (-einval)
  else
    let cmd := trackSendCmd cfg
    let (err, _, _) := io.submitAdminPassthru cmd
    ⟨.submit cmd :: reportStatus err (.print "Track Send (%s) Successful\n" [])
      "ERROR: nvme_submit_admin_passthru() failed %s", .returned err⟩

theorem lmTrackSend_submitted (io : Collaborators) (cfg : TrackSendConfig) :
    (lmTrackSend io cfg).submitted =
      if cfg.select = trackSendSelectLogUserDataChanges ∧ ¬(cfg.start ∧ cfg.stop) then
        some (trackSendCmd cfg)
      else none := by
  unfold lmTrackSend
  simp only [selectIsUnset_eq_false, Bool.false_eq_true, if_false]
  split_ifs <;> simp_all [Event.cmd?]

/-- The command of `lm_migration_send` (lines 436-447) with the payload buffer at `data`
(`NULL` when no file was read). -/
def migrationSendCmd (cfg : MigrationSendConfig) (data : UInt64) : PassthruCmd where
  opcode := nvmeAdminMigrationSend
  cdw10 := cfg.seqind.toUInt32 <<< 16 ||| cfg.sel.toUInt32
  cdw11 :=
    if cfg.sel = migrationSendSetControllerState then
      cfg.csuuidi.toUInt32 <<< 24 ||| cfg.csvi.toUInt32 <<< 16 ||| cfg.cntlid.toUInt32
    else
      (if cfg.delete then (1 : UInt32) else 0) <<< 31 ||| cfg.stype.toUInt32 <<< 16 |||
        cfg.cntlid.toUInt32
  cdw12 := cfg.offset.toUInt32
  cdw13 := (cfg.offset >>> 32).toUInt32
  cdw15 := cfg.numd
  addr := data
  dataLen := cfg.numd <<< 2

/-- The last stage of `lm_migration_send` (lines 449-458): submit and report. -/
def migrationSendSubmit (io : Collaborators) (cfg : MigrationSendConfig) (data : UInt64) : Run :=
  let cmd := migrationSendCmd cfg data
  let (err, _, _) := io.submitAdminPassthru cmd
  ⟨.submit cmd :: reportStatus err (.print "Migration Send (%s) Successful\n" [])
    "ERROR: nvme_submit_admin_passthru() failed %s", .returned err⟩

/-- `_cleanup_file_ FILE *file` on return from `lm_migration_send` once `fclose(file)` (line
428) has run: `file` still points at the closed stream, and the cleanup handler (`util/cleanup.h`,
not under src/) calls `fclose` on it again. The run keeps its events and does not return. -/
def cleanupFile (r : Run) : Run := ⟨r.events, .crashed "fclose of a closed FILE"⟩

@[simp] theorem cleanupFile_events (r : Run) : (cleanupFile r).events = r.events := rfl

@[simp] theorem cleanupFile_exit (r : Run) :
    (cleanupFile r).exit = .crashed "fclose of a closed FILE" := rfl

/-- The payload stage of `lm_migration_send` (lines 415-432): a named input file is opened and
read into a buffer of `numd << 2` bytes, whatever the select. -/
def migrationSendPayload (io : Collaborators) (cfg : MigrationSendConfig) : Run :=
  match cfg.input with
  | some path =>
    if path.length ≠ 0 then
      if io.fopen path "r" then
        let len := (cfg.numd <<< 2).toNat
        let data := io.allocHuge len
        if data = 0 then .fail [.fopen path "r", .allocHuge len] (-enomem)
        else if io.fread len ≠ len then
          cleanupFile (.fail [.fopen path "r", .allocHuge len, .fread len, .fclose,
            .showError "failed to read controller state data %s" []] (-(io.errno : Int)))
        else cleanupFile (.after [.fopen path "r", .allocHuge len, .fread len, .fclose]
          (migrationSendSubmit io cfg data))
      else .fail [.fopen path "r", .showPerror path] (-einval)
    else migrationSendSubmit io cfg 0
  | none => migrationSendSubmit io cfg 0

/-- The buffer the payload stage hands to the command: `NULL` when no file is named, the
buffer of a complete read, and nothing when opening, allocating or reading fails. -/
def payloadBuffer (io : Collaborators) (cfg : MigrationSendConfig) : Option UInt64 :=
  match cfg.input with
  | some path =>
    if path.length ≠ 0 then
      let len := (cfg.numd <<< 2).toNat
      if io.fopen path "r" ∧ io.allocHuge len ≠ 0 ∧ io.fread len = len then
        some (io.allocHuge len)
      else none
    else some 0
  | none => some 0

theorem payloadBuffer_eq_some {io : Collaborators} {cfg : MigrationSendConfig} {data : UInt64}
    (h : payloadBuffer io cfg = some data) :
    ((∀ path, cfg.input = some path → path.length = 0) → data = 0) ∧
    ∀ path, cfg.input = some path → path.length ≠ 0 →
      io.fopen path "r" = true ∧ data = io.allocHuge (cfg.numd <<< 2).toNat ∧ data ≠ 0 ∧
        io.fread (cfg.numd <<< 2).toNat = (cfg.numd <<< 2).toNat := by
  unfold payloadBuffer at h
  rcases hin : cfg.input with _ | path
  · simp only [hin] at h
    cases h
    exact ⟨fun _ => rfl, fun _ h' => nomatch h'⟩
  · simp only [hin, Option.some.injEq, forall_eq'] at h ⊢
    split_ifs at h with h1 h2
    · cases h
      exact ⟨fun h3 => absurd h3 h1, fun _ => ⟨h2.1, rfl, h2.2.1, h2.2.2⟩⟩
    · cases h
      exact ⟨fun _ => rfl, fun h3 => absurd (not_not.mp h1) h3⟩

theorem migrationSendPayload_cases (io : Collaborators) (cfg : MigrationSendConfig) :
    (payloadBuffer io cfg = some 0 ∧ migrationSendPayload io cfg = migrationSendSubmit io cfg 0) ∨
    ∃ path, cfg.input = some path ∧
      ((payloadBuffer io cfg = none ∧
        migrationSendPayload io cfg = .fail [.fopen path "r", .showPerror path] (-einval)) ∨
      (payloadBuffer io cfg = none ∧ migrationSendPayload io cfg =
        .fail [.fopen path "r", .allocHuge (cfg.numd <<< 2).toNat] (-enomem)) ∨
      (payloadBuffer io cfg = none ∧ migrationSendPayload io cfg =
        cleanupFile (.fail [.fopen path "r", .allocHuge (cfg.numd <<< 2).toNat,
          .fread (cfg.numd <<< 2).toNat, .fclose,
          .showError "failed to read controller state data %s" []] (-(io.errno : Int)))) ∨
      (payloadBuffer io cfg = some (io.allocHuge (cfg.numd <<< 2).toNat) ∧
        migrationSendPayload io cfg = cleanupFile (.after [.fopen path "r",
          .allocHuge (cfg.numd <<< 2).toNat, .fread (cfg.numd <<< 2).toNat, .fclose]
          (migrationSendSubmit io cfg (io.allocHuge (cfg.numd <<< 2).toNat))))) := by
  unfold migrationSendPayload payloadBuffer
  rcases cfg.input with _ | path
  · exact .inl ⟨rfl, rfl⟩
  dsimp only
  by_cases h1 : path.length ≠ 0
  swap
  · exact .inl ⟨if_neg h1, if_neg h1⟩
  simp only [if_pos h1]
  refine .inr ⟨path, rfl, ?_⟩
  by_cases h2 : io.fopen path "r"
  swap
  · exact .inl ⟨if_neg fun h => h2 h.1, if_neg h2⟩
  by_cases h3 : io.allocHuge (cfg.numd <<< 2).toNat = 0
  · exact .inr (.inl ⟨if_neg fun h => h.2.1 h3, by rw [if_pos h2, if_pos h3]⟩)
  by_cases h4 : io.fread (cfg.numd <<< 2).toNat ≠ (cfg.numd <<< 2).toNat
  · exact .inr (.inr (.inl ⟨if_neg fun h => h4 h.2.2, by rw [if_pos h2, if_neg h3, if_pos h4]⟩))
  · exact .inr (.inr (.inr ⟨if_pos ⟨h2, h3, not_not.mp h4⟩,
      by rw [if_pos h2, if_neg h3, if_neg h4]⟩))

theorem migrationSendSubmit_submitted (io : Collaborators) (cfg : MigrationSendConfig)
    (data : UInt64) : (migrationSendSubmit io cfg data).submitted = some (migrationSendCmd cfg data) :=
  rfl

theorem migrationSendPayload_submitted (io : Collaborators) (cfg : MigrationSendConfig) :
    (migrationSendPayload io cfg).submitted = (payloadBuffer io cfg).map (migrationSendCmd cfg) := by
  rcases migrationSendPayload_cases io cfg with ⟨hb, hr⟩ | ⟨path, -, ⟨hb, hr⟩ | ⟨hb, hr⟩ | ⟨hb, hr⟩ | ⟨hb, hr⟩⟩ <;>
    rw [hb, hr] <;> rfl

/-- The sanity checks of `lm_migration_send` (lines 391-412) pass without reaching
`strlen(NULL)`. -/
def migrationSendChecks (cfg : MigrationSendConfig) : Bool :=
  if cfg.sel = migrationSendSuspend ∨ cfg.sel = migrationSendResume then
    decide (cfg.csuuidi = 0 ∧ cfg.csvi = 0)
  else if cfg.sel = migrationSendSetControllerState then
    !cfg.delete && decide (cfg.stype = 0) && cfg.input.any fun path => path.length ≠ 0
  else true

/-- `lm_migration_send` (lines 316-459) after `parse_and_open`. For Set Controller State with
no input file it calls `strlen(NULL)`. -/
def lmMigrationSend (io : Collaborators) (cfg : MigrationSendConfig) : Run :=
  if selectIsUnset cfg.sel then .fail [.showError "Select field required" []] (-einval)
  else if cfg.sel = migrationSendSuspend ∨ cfg.sel = migrationSendResume then
    if cfg.csuuidi ≠ 0 ∨ cfg.csvi ≠ 0 then
      .fail [.showError "Unexpected fields for %s" []] (-einval)
    else migrationSendPayload io cfg
  else if cfg.sel = migrationSendSetControllerState then
    if cfg.delete ∨ cfg.stype ≠ 0 then
      .fail [.showError "Unexpected fields for %s" []] (-einval)
    else
      match cfg.input with
      | none => ⟨[], .crashed "strlen(NULL)"⟩
      | some path =>
        if path.length = 0 then .fail [.showError "Expected file for %s" []] (-einval)
        else migrationSendPayload io cfg
  else migrationSendPayload io cfg

theorem lmMigrationSend_cases (io : Collaborators) (cfg : MigrationSendConfig) :
    (migrationSendChecks cfg = true ∧ lmMigrationSend io cfg = migrationSendPayload io cfg) ∨
    (migrationSendChecks cfg = false ∧
      (lmMigrationSend io cfg = .fail [.showError "Unexpected fields for %s" []] (-einval) ∨
        lmMigrationSend io cfg = .fail [.showError "Expected file for %s" []] (-einval) ∨
        lmMigrationSend io cfg = ⟨[], .crashed "strlen(NULL)"⟩)) := by
  unfold lmMigrationSend
  simp only [selectIsUnset_eq_false, Bool.false_eq_true, if_false]
  by_cases h01 : cfg.sel = migrationSendSuspend ∨ cfg.sel = migrationSendResume
  · have hc : migrationSendChecks cfg = decide (cfg.csuuidi = 0 ∧ cfg.csvi = 0) := by
      simp only [migrationSendChecks, if_pos h01]
    rw [if_pos h01, hc]
    by_cases hx : cfg.csuuidi ≠ 0 ∨ cfg.csvi ≠ 0
    · exact .inr ⟨by simpa only [decide_eq_false_iff_not, not_and_or] using hx, .inl (if_pos hx)⟩
    · exact .inl ⟨by simpa only [decide_eq_true_eq, not_or, not_not] using hx, if_neg hx⟩
  by_cases h2 : cfg.sel = migrationSendSetControllerState
  · have hc : migrationSendChecks cfg =
        (!cfg.delete && decide (cfg.stype = 0) && cfg.input.any fun path => path.length ≠ 0) := by
      simp only [migrationSendChecks, if_neg h01, if_pos h2]
    rw [if_neg h01, if_pos h2, hc]
    by_cases hx : cfg.delete ∨ cfg.stype ≠ 0
    · rw [if_pos hx]
      exact .inr ⟨by rcases hx with hx | hx <;> simp [hx], .inl rfl⟩
    rw [if_neg hx]
    simp only [not_or, Bool.not_eq_true, not_not] at hx
    rcases cfg.input with _ | path
    · exact .inr ⟨by simp, .inr (.inr rfl)⟩
    · by_cases hl : path.length = 0
      · exact .inr ⟨by simp [hl], .inr (.inl (if_pos hl))⟩
      · exact .inl ⟨by simp [hx, hl], if_neg hl⟩
  · rw [if_neg h01, if_neg h2]
    exact .inl ⟨by simp only [migrationSendChecks, if_neg h01, if_neg h2], rfl⟩

theorem lmMigrationSend_submitted (io : Collaborators) (cfg : MigrationSendConfig) :
    (lmMigrationSend io cfg).submitted =
      if migrationSendChecks cfg then (payloadBuffer io cfg).map (migrationSendCmd cfg)
      else none := by
  rcases lmMigrationSend_cases io cfg with ⟨hc, hr⟩ | ⟨hc, hr | hr | hr⟩ <;>
    simp only [hc, hr, if_true, migrationSendPayload_submitted] <;> rfl

/-- The command of `lm_migration_recv` (lines 799-808) with the output buffer at `data`. -/
def migrationRecvCmd (cfg : MigrationRecvConfig) (data : UInt64) : PassthruCmd where
  opcode := nvmeAdminMigrationReceive
  cdw10 := cfg.csvi.toUInt32 <<< 16 ||| migrationRecvGetControllerState
  cdw11 := cfg.csuuidi.toUInt32 <<< 16 ||| cfg.cntlid.toUInt32
  cdw12 := cfg.offset.toUInt32
  cdw13 := (cfg.offset >>> 32).toUInt32
  cdw15 := cfg.numd
  addr := data
  dataLen := (cfg.numd + 1) <<< 2

/-- The output file stage of `lm_migration_recv` (lines 787-793): whether `fopen` returned a
stream, when an output file is named. The check `fd < 0` that follows compares a pointer with
`0` and never holds. -/
def migrationRecvOutput (io : Collaborators) (cfg : MigrationRecvConfig) :
    List Event × Option Bool :=
  match cfg.output with
  | some path => if path.length ≠ 0 then ([.fopen path "w"], some (io.fopen path "w")) else ([], none)
  | none => ([], none)

/-- What `lm_migration_recv` does with a buffer the device filled (lines 816-830): print CDW0
for normal output, then write `numd << 2` bytes to the output file or decode `(numd + 1) << 2`
bytes. When `fopen` failed the stream is `NULL`: glibc's `fwrite` returns 0 for a 0-byte request
without reading the stream, and reads through it otherwise. -/
def migrationRecvShow (io : Collaborators) (cfg : MigrationRecvConfig) (flags : PrintFlags)
    (stream : Option Bool) (result : UInt32) (buf : Nat → UInt8) : Run :=
  let cdw0 := if flags = PrintFlags.normal then
      [Event.print "CDW0: 0x%x: Controller %sSuspended\n" [result.toNat]] else []
  match stream with
  | some true =>
    let len := (cfg.numd <<< 2).toNat
    if io.fwrite len ≠ len then
      ⟨cdw0 ++ [.fwrite len, .showError "ERROR: %s: failed to write buffer to output file" []],
        .returned 0⟩
    else ⟨cdw0 ++ [.fwrite len], .returned 0⟩
  | some false =>
    let len := (cfg.numd <<< 2).toNat
    if len = 0 then ⟨cdw0 ++ [.fwrite len], .returned 0⟩
    else ⟨cdw0, .crashed "fwrite to a NULL stream"⟩
  | none =>
    let len := ((cfg.numd + 1) <<< 2).toNat
    ⟨cdw0 ++ [.showControllerState len
      (showControllerStateData io.host buf len cfg.offset.toUInt32 flags)], .returned 0⟩

/-- `lm_migration_recv` (lines 716-834) after `parse_and_open`. The test
`cfg.output_format && ...` holds for the non-`NULL` format, and the function ends with
`return 0` whatever `err` holds. -/
def lmMigrationRecv (io : Collaborators) (cfg : MigrationRecvConfig) : Run :=
  let (err, flags) := io.validateOutputFormat cfg.outputFormat
  if err < 0 then .fail [.showError "Invalid output format" []] err
  else if cfg.offset ≠ 0 ∧ ¬flags.binary then
    .fail [.showError "cannot parse non-zero offset" []] (-einval)
  else
    let flags := if cfg.humanReadable then { flags with verbose := true } else flags
    let (opened, stream) := migrationRecvOutput io cfg
    let len := ((cfg.numd + 1) <<< 2).toNat
    let data := io.allocHuge len
    if data = 0 then .fail (opened ++ [.allocHuge len]) (-enomem)
    else
      let cmd := migrationRecvCmd cfg data
      let (err, result, buf) := io.submitAdminPassthru cmd
      let pre := opened ++ [.allocHuge len, .submit cmd]
      if err < 0 then
        ⟨pre ++ [.showError "ERROR: nvme_submit_admin_passthru() failed %s" []], .returned 0⟩
      else if err ≠ 0 then ⟨pre ++ [.showStatus err], .returned 0⟩
      else .after pre (migrationRecvShow io cfg flags stream result buf)

theorem migrationRecvOutput_cmd? (io : Collaborators) (cfg : MigrationRecvConfig) :
    (migrationRecvOutput io cfg).1.findSome? Event.cmd? = none := by
  unfold migrationRecvOutput
  rcases cfg.output with _ | path
  · rfl
  · simp only
    split_ifs <;> rfl

theorem lmMigrationRecv_cases (io : Collaborators) (cfg : MigrationRecvConfig) {err : Int}
    {flags : PrintFlags} {opened : List Event} {stream : Option Bool}
    (hv : io.validateOutputFormat cfg.outputFormat = (err, flags))
    (ho : migrationRecvOutput io cfg = (opened, stream)) :
    (err < 0 ∧ lmMigrationRecv io cfg = .fail [.showError "Invalid output format" []] err) ∨
    (¬err < 0 ∧ (cfg.offset ≠ 0 ∧ ¬flags.binary) ∧
      lmMigrationRecv io cfg = .fail [.showError "cannot parse non-zero offset" []] (-einval)) ∨
    (¬err < 0 ∧ ¬(cfg.offset ≠ 0 ∧ ¬flags.binary) ∧
      io.allocHuge ((cfg.numd + 1) <<< 2).toNat = 0 ∧ lmMigrationRecv io cfg =
        .fail (opened ++ [.allocHuge ((cfg.numd + 1) <<< 2).toNat]) (-enomem)) ∨
    (¬err < 0 ∧ ¬(cfg.offset ≠ 0 ∧ ¬flags.binary) ∧
      io.allocHuge ((cfg.numd + 1) <<< 2).toNat ≠ 0 ∧
      ∃ status result buf, io.submitAdminPassthru
          (migrationRecvCmd cfg (io.allocHuge ((cfg.numd + 1) <<< 2).toNat)) =
        (status, result, buf) ∧
      let pre := opened ++ [.allocHuge ((cfg.numd + 1) <<< 2).toNat,
        .submit (migrationRecvCmd cfg (io.allocHuge ((cfg.numd + 1) <<< 2).toNat))]
      ((status < 0 ∧ lmMigrationRecv io cfg =
          ⟨pre ++ [.showError "ERROR: nvme_submit_admin_passthru() failed %s" []], .returned 0⟩) ∨
        (¬status < 0 ∧ status ≠ 0 ∧ lmMigrationRecv io cfg = ⟨pre ++ [.showStatus status], .returned 0⟩) ∨
        (status = 0 ∧ lmMigrationRecv io cfg = .after pre (migrationRecvShow io cfg
          (if cfg.humanReadable then { flags with verbose := true } else flags) stream result buf)))) := by
  rcases hs : io.submitAdminPassthru (migrationRecvCmd cfg (io.allocHuge ((cfg.numd + 1) <<< 2).toNat))
    with ⟨status, result, buf⟩
  unfold lmMigrationRecv
  simp only [hv, ho, hs]
  by_cases h1 : err < 0
  · exact .inl ⟨h1, if_pos h1⟩
  rw [if_neg h1]
  by_cases h2 : cfg.offset ≠ 0 ∧ ¬flags.binary
  · exact .inr (.inl ⟨h1, h2, if_pos h2⟩)
  rw [if_neg h2]
  by_cases h3 : io.allocHuge ((cfg.numd + 1) <<< 2).toNat = 0
  · exact .inr (.inr (.inl ⟨h1, h2, h3, if_pos h3⟩))
  refine .inr (.inr (.inr ⟨h1, h2, h3, status, result, buf, rfl, ?_⟩))
  rw [if_neg h3]
  by_cases h4 : status < 0
  · exact .inl ⟨h4, if_pos h4⟩
  by_cases h5 : status ≠ 0
  · exact .inr (.inl ⟨h4, h5, by rw [if_neg h4, if_pos h5]⟩)
  · exact .inr (.inr ⟨not_not.mp h5, by rw [if_neg h4, if_neg h5]⟩)

theorem lmMigrationRecv_submitted (io : Collaborators) (cfg : MigrationRecvConfig) :
    (lmMigrationRecv io cfg).submitted =
      if (io.validateOutputFormat cfg.outputFormat).1 < 0 ∨
          (cfg.offset ≠ 0 ∧ ¬(io.validateOutputFormat cfg.outputFormat).2.binary) ∨
          io.allocHuge ((cfg.numd + 1) <<< 2).toNat = 0 then none
      else some (migrationRecvCmd cfg (io.allocHuge ((cfg.numd + 1) <<< 2).toNat)) := by
  rcases hv : io.validateOutputFormat cfg.outputFormat with ⟨err, flags⟩
  rcases ho : migrationRecvOutput io cfg with ⟨opened, stream⟩
  have hout := migrationRecvOutput_cmd? io cfg
  rw [ho] at hout
  simp only [hv]
  rcases lmMigrationRecv_cases io cfg hv ho with ⟨h1, hr⟩ | ⟨h1, h2, hr⟩ | ⟨h1, h2, h3, hr⟩ |
    ⟨h1, h2, h3, status, result, buf, -, ⟨-, hr⟩ | ⟨-, -, hr⟩ | ⟨-, hr⟩⟩ <;> rw [hr]
  · rw [if_pos (.inl h1)]
    rfl
  · rw [if_pos (.inr (.inl h2))]
    rfl
  · rw [if_pos (.inr (.inr h3))]
    simp only [Run.submitted_fail, List.findSome?_append, hout, Option.none_or]
    rfl
  all_goals
    have hok : ¬(err < 0 ∨ (cfg.offset ≠ 0 ∧ ¬flags.binary) ∨
        io.allocHuge ((cfg.numd + 1) <<< 2).toNat = 0) := by tauto
    rw [if_neg hok]
    simp only [Run.submitted_mk, Run.submitted_after, List.findSome?_append, hout, Option.none_or]
    rfl

end Lm.Command
