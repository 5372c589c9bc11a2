import NvmeLiveMigration.Command.Cdq
import NvmeLiveMigration.Command.Migration

/-! Command encoding. Each command the plugin hands to the device (lines 141-148, 186-190,
282-286, 436-447, 799-808, and the feature arguments of lines 875-882 and 963-970) decodes, at
the bit positions of the NVMe command layout, to the fields of the `struct config` it was built
from, and leaves zero the dwords it does not set. -/

namespace Lm.Command
open Lm.Word

/-! ## Decoding at the NVMe bit positions -/

/-- Create CDQ: `qt = CDW10[31:16]`, the create selector in `CDW10[15:0]`,
`cntlid = CDW11[31:16]`, `CDW11[0] = 1`, `size = CDW12`. -/
def CreateCdqDecodes (cmd : PassthruCmd) (cfg : CreateCdqConfig) : Prop :=
  cmd.opcode = nvmeAdminControllerDataQueue ∧ bits cmd.cdw10 31 16 = cfg.qt.toNat ∧
    bits cmd.cdw10 15 0 = 0 ∧ bits cmd.cdw11 31 16 = cfg.cntlid.toNat ∧ bits cmd.cdw11 0 0 = 1 ∧
    cmd.cdw12 = cfg.sz

/-- Delete CDQ: the delete selector in `CDW10`, `cdqid = CDW11`. -/
def DeleteCdqDecodes (cmd : PassthruCmd) (cfg : DeleteCdqConfig) : Prop :=
  cmd.opcode = nvmeAdminControllerDataQueue ∧ cmd.cdw10.toNat = 1 ∧
    cmd.cdw11.toNat = cfg.cdqid.toNat

/-- Track Send: `select = CDW10[7:0]`, the management operation in `CDW10[31:16]` with
`--start` and `--stop` taking precedence over `--mos`, `cdqid = CDW11`. -/
def TrackSendDecodes (cmd : PassthruCmd) (cfg : TrackSendConfig) : Prop :=
  cmd.opcode = nvmeAdminTrackSend ∧ bits cmd.cdw10 7 0 = cfg.select.toNat ∧
    bits cmd.cdw10 31 16 = (if cfg.start then 1 else if cfg.stop then 0 else cfg.mos.toNat) ∧
    cmd.cdw11.toNat = cfg.cdqid.toNat

/-- Migration Send: `select = CDW10[7:0]`, `seqind = CDW10[31:16]`; for Set Controller State
`csuuidi = CDW11[31:24]`, `csvi = CDW11[23:16]`, otherwise `delete = CDW11[31]`,
`stype = CDW11[30:16]`; `cntlid = CDW11[15:0]`; `offset = CDW12 + 2^32 CDW13`,
`numd = CDW15`. -/
def MigrationSendDecodes (cmd : PassthruCmd) (cfg : MigrationSendConfig) : Prop :=
  cmd.opcode = nvmeAdminMigrationSend ∧ bits cmd.cdw10 7 0 = cfg.sel.toNat ∧
    bits cmd.cdw10 31 16 = cfg.seqind.toNat ∧
    (cfg.sel = migrationSendSetControllerState →
      bits cmd.cdw11 31 24 = cfg.csuuidi.toNat ∧ bits cmd.cdw11 23 16 = cfg.csvi.toNat) ∧
    (cfg.sel ≠ migrationSendSetControllerState →
      bits cmd.cdw11 31 31 = cfg.delete.toNat ∧ bits cmd.cdw11 30 16 = cfg.stype.toNat) ∧
    bits cmd.cdw11 15 0 = cfg.cntlid.toNat ∧
    cmd.cdw12.toNat + 2 ^ 32 * cmd.cdw13.toNat = cfg.offset.toNat ∧ cmd.cdw15 = cfg.numd

/-- Migration Receive: `csvi = CDW10[31:16]`, the Get Controller State selector in
`CDW10[15:0]`, `csuuidi = CDW11[31:16]`, `cntlid = CDW11[15:0]`, the offset and `numd` as for
Migration Send. -/
def MigrationRecvDecodes (cmd : PassthruCmd) (cfg : MigrationRecvConfig) : Prop :=
  cmd.opcode = nvmeAdminMigrationReceive ∧ bits cmd.cdw10 31 16 = cfg.csvi.toNat ∧
    bits cmd.cdw10 15 0 = 0 ∧ bits cmd.cdw11 31 16 = cfg.csuuidi.toNat ∧
    bits cmd.cdw11 15 0 = cfg.cntlid.toNat ∧
    cmd.cdw12.toNat + 2 ^ 32 * cmd.cdw13.toNat = cfg.offset.toNat ∧ cmd.cdw15 = cfg.numd

/-- Set CDQ feature: `cdqid = CDW11[15:0]`, the tail event request in `CDW11[31]` exactly for a
non-negative trigger, `hp = CDW12`, and the trigger is `CDW13` read as a `__s32`. -/
def SetCdqDecodes (args : SetFeaturesArgs) (cfg : SetCdqConfig) : Prop :=
  args.fid = lmCdqFeatureId ∧ bits args.cdw11 15 0 = cfg.cdqid.toNat ∧
    bits args.cdw11 30 16 = 0 ∧ bits args.cdw11 31 31 = (if 0 ≤ cfg.tpt.val then 1 else 0) ∧
    args.cdw12 = cfg.hp ∧ signed32 args.cdw13 = cfg.tpt.val

/-- Get CDQ feature: `cdqid = CDW11` and a 512-byte data buffer. -/
def GetCdqDecodes (args : GetFeaturesArgs) (cfg : GetCdqConfig) : Prop :=
  args.fid = lmCdqFeatureId ∧ args.cdw11.toNat = cfg.cdqid.toNat ∧ args.dataLen.toNat = 512

/-! ## Each builder meets its decoding -/

section Fields
variable (q : UInt64)

theorem offset_dwords (offset : UInt64) :
    offset.toUInt32.toNat + 2 ^ 32 * (offset >>> 32).toUInt32.toNat = offset.toNat := by
  have h := u64_lt offset
  simp only [toNat_u64_toUInt32, toNat_shiftRight64, toNat_lit64, Nat.reduceMod, Nat.reducePow]
  omega

theorem createCdqCmd_decodes (cfg : CreateCdqConfig) : CreateCdqDecodes (createCdqCmd cfg q) cfg := by
  have h1 := u8_lt cfg.qt
  have h2 := u16_lt cfg.cntlid
  have h10 : (createCdqCmd cfg q).cdw10.toNat =
      cfg.qt.toNat * 2 ^ 16 + createControllerDataQueue.toNat := by
    simp only [createCdqCmd, createControllerDataQueue, toNat_or32, toNat_shiftLeft32,
      toNat_u8_toUInt32, toNat_lit32, Nat.reduceMod, Nat.reducePow, Nat.or_zero]
    omega
  have h11 : (createCdqCmd cfg q).cdw11.toNat = cfg.cntlid.toNat * 2 ^ 16 + 1 := by
    simp only [createCdqCmd, toNat_or32, toNat_shiftLeft32, toNat_u16_toUInt32, toNat_lit32,
      Nat.reduceMod, Nat.reducePow]
    rw [or_eq_add 16 (by omega) (by norm_num)]
    omega
  refine ⟨rfl, ?_, bits_low 15 h10 (by decide) le_rfl, ?_,
    bits_low 0 h11 (by norm_num) (by norm_num), rfl⟩
  · rw [bits_pack 31 h10 (by decide)]
    omega
  · rw [bits_pack 31 h11 (by norm_num)]
    omega

theorem deleteCdqCmd_decodes (cfg : DeleteCdqConfig) : DeleteCdqDecodes (deleteCdqCmd cfg) cfg :=
  ⟨rfl, rfl, rfl⟩

theorem trackSendCmd_decodes (cfg : TrackSendConfig)
    (h : cfg.select = trackSendSelectLogUserDataChanges) : TrackSendDecodes (trackSendCmd cfg) cfg := by
  have h1 := u8_lt cfg.select
  have h2 := u8_lt (trackSendMos cfg)
  have h10 : (trackSendCmd cfg).cdw10.toNat = (trackSendMos cfg).toNat * 2 ^ 16 + cfg.select.toNat := by
    simp only [trackSendCmd, toNat_or32, toNat_shiftLeft32, toNat_u8_toUInt32, toNat_lit32,
      Nat.reduceMod, Nat.reducePow]
    rw [Nat.or_comm, or_eq_add 16 (by omega) (by omega)]
    omega
  have hmos : (trackSendMos cfg).toNat = if cfg.start then 1 else if cfg.stop then 0 else cfg.mos.toNat := by
    simp only [trackSendMos, h, if_true]
    split_ifs <;> rfl
  refine ⟨rfl, bits_low 7 h10 h1 (by norm_num), ?_, rfl⟩
  rw [bits_pack 31 h10 (by omega), ← hmos]
  omega

theorem migrationSendCmd_decodes (cfg : MigrationSendConfig) :
    MigrationSendDecodes (migrationSendCmd cfg q) cfg := by
  have h1 := u8_lt cfg.sel
  have h2 := u8_lt cfg.seqind
  have h3 := u8_lt cfg.csuuidi
  have h4 := u8_lt cfg.csvi
  have h5 := u8_lt cfg.stype
  have h6 := u16_lt cfg.cntlid
  have h10 : (migrationSendCmd cfg q).cdw10.toNat = cfg.seqind.toNat * 2 ^ 16 + cfg.sel.toNat := by
    simp only [migrationSendCmd, toNat_or32, toNat_shiftLeft32, toNat_u8_toUInt32, toNat_lit32,
      Nat.reduceMod, Nat.reducePow]
    rw [or_eq_add 16 (by omega) (by omega)]
    omega
  have h11 : (migrationSendCmd cfg q).cdw11.toNat =
      (if cfg.sel = migrationSendSetControllerState then cfg.csuuidi.toNat * 2 ^ 8 + cfg.csvi.toNat
        else cfg.delete.toNat * 2 ^ 15 + cfg.stype.toNat) * 2 ^ 16 + cfg.cntlid.toNat := by
    simp only [migrationSendCmd]
    by_cases hs : cfg.sel = migrationSendSetControllerState
    · simp only [hs, if_true, toNat_or32, toNat_shiftLeft32, toNat_u8_toUInt32,
        toNat_u16_toUInt32, toNat_lit32, Nat.reduceMod, Nat.reducePow]
      rw [or_or_eq_add 24 16 (by omega) (by omega) (by omega) (by omega) (by omega)]
      omega
    · rcases Bool.eq_false_or_eq_true cfg.delete with hd | hd <;>
        simp only [hs, hd, if_true, Bool.false_eq_true, if_false, Bool.toNat_true,
          Bool.toNat_false, toNat_or32, toNat_shiftLeft32, toNat_u8_toUInt32, toNat_u16_toUInt32,
          toNat_lit32, Nat.reduceMod, Nat.reducePow, Nat.zero_mul, Nat.one_mul, Nat.zero_mod,
          Nat.zero_or]
      · rw [or_or_eq_add 31 16 (by omega) (by omega) (by omega) (by omega) (by omega)]
        omega
      · rw [or_eq_add 16 (by omega) (by omega)]
        omega
  have hd := Bool.toNat_le cfg.delete
  refine ⟨rfl, bits_low 7 h10 h1 (by norm_num), ?_, fun h => ?_, fun h => ?_,
    bits_low 15 h11 h6 le_rfl, offset_dwords cfg.offset, rfl⟩
  · rw [bits_pack 31 h10 (by omega)]
    omega
  · rw [if_pos h] at h11
    have h11' : (migrationSendCmd cfg q).cdw11.toNat =
        cfg.csuuidi.toNat * 2 ^ 24 + (cfg.csvi.toNat * 2 ^ 16 + cfg.cntlid.toNat) := by omega
    rw [bits_pack 31 h11' (by omega), bits_pack 23 h11 h6]
    omega
  · rw [if_neg h] at h11
    have h11' : (migrationSendCmd cfg q).cdw11.toNat =
        cfg.delete.toNat * 2 ^ 31 + (cfg.stype.toNat * 2 ^ 16 + cfg.cntlid.toNat) := by omega
    rw [bits_pack 31 h11' (by omega), bits_pack 30 h11 h6]
    omega

theorem migrationRecvCmd_decodes (cfg : MigrationRecvConfig) :
    MigrationRecvDecodes (migrationRecvCmd cfg q) cfg := by
  have h1 := u8_lt cfg.csvi
  have h2 := u8_lt cfg.csuuidi
  have h3 := u16_lt cfg.cntlid
  have h10 : (migrationRecvCmd cfg q).cdw10.toNat =
      cfg.csvi.toNat * 2 ^ 16 + migrationRecvGetControllerState.toNat := by
    simp only [migrationRecvCmd, migrationRecvGetControllerState, toNat_or32, toNat_shiftLeft32,
      toNat_u8_toUInt32, toNat_lit32, Nat.reduceMod, Nat.reducePow, Nat.or_zero]
    omega
  have h11 : (migrationRecvCmd cfg q).cdw11.toNat = cfg.csuuidi.toNat * 2 ^ 16 + cfg.cntlid.toNat := by
    simp only [migrationRecvCmd, toNat_or32, toNat_shiftLeft32, toNat_u8_toUInt32,
      toNat_u16_toUInt32, toNat_lit32, Nat.reduceMod, Nat.reducePow]
    rw [or_eq_add 16 (by omega) (by omega)]
    omega
  refine ⟨rfl, ?_, bits_low 15 h10 (by decide) le_rfl, ?_, bits_low 15 h11 h3 le_rfl,
    offset_dwords cfg.offset, rfl⟩
  · rw [bits_pack 31 h10 (by decide)]
    omega
  · rw [bits_pack 31 h11 h3]
    omega

theorem setCdqArgs_decodes (cfg : SetCdqConfig) : SetCdqDecodes (setCdqArgs cfg) cfg := by
  have h1 := u16_lt cfg.cdqid
  have h11 : (setCdqArgs cfg).cdw11.toNat =
      (if 0 ≤ cfg.tpt.val then 1 else 0) * 2 ^ 15 * 2 ^ 16 + cfg.cdqid.toNat := by
    simp only [setCdqArgs]
    split_ifs
    · simp only [toNat_or32, toNat_shiftLeft32, toNat_u16_toUInt32, toNat_lit32, Nat.reduceMod,
        Nat.reducePow]
      rw [Nat.or_comm, or_eq_add 16 (by norm_num) (by omega)]
    · simp only [toNat_or32, toNat_lit32, toNat_u16_toUInt32, Nat.reduceMod, Nat.zero_mod,
        Nat.or_zero, Nat.zero_mul, Nat.zero_add]
  have h11' : (setCdqArgs cfg).cdw11.toNat =
      (if 0 ≤ cfg.tpt.val then 1 else 0) * 2 ^ 31 + cfg.cdqid.toNat := by
    omega
  refine ⟨rfl, bits_low 15 h11 h1 le_rfl, ?_, ?_, rfl, signed32_toUInt32 cfg.tpt⟩
  · rw [bits_pack 30 h11 h1, Nat.mul_mod_left]
  · rw [bits_pack 31 h11' (by omega)]
    split_ifs <;> rfl

theorem getCdqArgs_decodes (cfg : GetCdqConfig) : GetCdqDecodes (getCdqArgs cfg) cfg :=
  ⟨rfl, rfl, rfl⟩

end Fields

/-! ## The commands the handlers submit -/

theorem submitted_commands_decode :
    (∀ io cfg cmd, (lmCreateCdq io cfg).submitted = some cmd → CreateCdqDecodes cmd cfg) ∧
    (∀ io cfg cmd, (lmDeleteCdq io cfg).submitted = some cmd → DeleteCdqDecodes cmd cfg) ∧
    (∀ io cfg cmd, (lmTrackSend io cfg).submitted = some cmd → TrackSendDecodes cmd cfg) ∧
    (∀ io cfg cmd, (lmMigrationSend io cfg).submitted = some cmd →
      MigrationSendDecodes cmd cfg) ∧
    (∀ io cfg cmd, (lmMigrationRecv io cfg).submitted = some cmd →
      MigrationRecvDecodes cmd cfg) ∧
    (∀ io cfg args, (lmSetCdq io cfg).featureSet = some args → SetCdqDecodes args cfg) ∧
    (∀ io cfg args, (lmGetCdq io cfg).featureGet = some args → GetCdqDecodes args cfg) := by
  refine ⟨fun io cfg cmd h => ?_, fun io cfg cmd h => ?_, fun io cfg cmd h => ?_,
    fun io cfg cmd h => ?_, fun io cfg cmd h => ?_, fun io cfg args h => ?_,
    fun io cfg args h => ?_⟩
  · rw [lmCreateCdq_submitted] at h
    split_ifs at h
    cases h
    exact createCdqCmd_decodes _ cfg
  · cases h
    exact deleteCdqCmd_decodes cfg
  · rw [lmTrackSend_submitted] at h
    split_ifs at h with hc
    cases h
    exact trackSendCmd_decodes cfg hc.1
  · rw [lmMigrationSend_submitted] at h
    split_ifs at h
    obtain ⟨data, -, rfl⟩ := Option.map_eq_some'.mp h
    exact migrationSendCmd_decodes data cfg
  · rw [lmMigrationRecv_submitted] at h
    split_ifs at h
    cases h
    exact migrationRecvCmd_decodes _ cfg
  · cases h
    exact setCdqArgs_decodes cfg
  · rw [lmGetCdq_featureGet] at h
    split_ifs at h
    cases h
    exact getCdqArgs_decodes cfg

/-- A Suspend of one dword with no payload file. -/
def suspendOneDword : MigrationSendConfig :=
  { MigrationSendConfig.default with sel := migrationSendSuspend, numd := 1 }

theorem suspendOneDword_dataLen :
    ∃ cmd, (lmMigrationSend Collaborators.succeeding suspendOneDword).submitted = some cmd ∧
      cmd.addr = 0 ∧ cmd.dataLen = 4 :=
  ⟨_, rfl, rfl, rfl⟩

/-- The fields a handler never sets are zero in every command it submits. Migration Send sets
`data_len = numd << 2` (line 446) whatever the select, and its buffer is `NULL` unless a named
input file was opened and completely read (lines 415-432), whatever the select. -/
theorem submitted_commands_zero_unassigned :
    (∀ io cfg cmd, (lmDeleteCdq io cfg).submitted = some cmd →
      cmd.cdw12 = 0 ∧ cmd.cdw13 = 0 ∧ cmd.cdw14 = 0 ∧ cmd.cdw15 = 0 ∧ cmd.addr = 0 ∧
        cmd.dataLen = 0) ∧
    (∀ io cfg cmd, (lmTrackSend io cfg).submitted = some cmd →
      cmd.cdw12 = 0 ∧ cmd.cdw13 = 0 ∧ cmd.cdw14 = 0 ∧ cmd.cdw15 = 0 ∧ cmd.addr = 0 ∧
        cmd.dataLen = 0) ∧
    (∀ io cfg cmd, (lmCreateCdq io cfg).submitted = some cmd →
      cmd.cdw13 = 0 ∧ cmd.cdw14 = 0 ∧ cmd.cdw15 = 0) ∧
    (∀ io cfg cmd, (lmMigrationRecv io cfg).submitted = some cmd → cmd.cdw14 = 0) ∧
    (∀ io cfg cmd, (lmMigrationSend io cfg).submitted = some cmd →
      cmd.cdw14 = 0 ∧ cmd.dataLen = cfg.numd <<< 2 ∧
      ((∀ path, cfg.input = some path → path.length = 0) → cmd.addr = 0) ∧
      ∀ path, cfg.input = some path → path.length ≠ 0 →
        io.fopen path "r" = true ∧ cmd.addr = io.allocHuge (cfg.numd <<< 2).toNat ∧
          cmd.addr ≠ 0 ∧ io.fread (cfg.numd <<< 2).toNat = (cfg.numd <<< 2).toNat) := by
  refine ⟨fun io cfg cmd h => ?_, fun io cfg cmd h => ?_, fun io cfg cmd h => ?_,
    fun io cfg cmd h => ?_, fun io cfg cmd h => ?_⟩
  · cases h
    exact ⟨rfl, rfl, rfl, rfl, rfl, rfl⟩
  · rw [lmTrackSend_submitted] at h
    split_ifs at h
    cases h
    exact ⟨rfl, rfl, rfl, rfl, rfl, rfl⟩
  · rw [lmCreateCdq_submitted] at h
    split_ifs at h
    cases h
    exact ⟨rfl, rfl, rfl⟩
  · rw [lmMigrationRecv_submitted] at h
    split_ifs at h
    cases h
    rfl
  · rw [lmMigrationSend_submitted] at h
    split_ifs at h
    obtain ⟨data, hd, rfl⟩ := Option.map_eq_some'.mp h
    exact ⟨rfl, rfl, (payloadBuffer_eq_some hd).1, (payloadBuffer_eq_some hd).2⟩

end Lm.Command
