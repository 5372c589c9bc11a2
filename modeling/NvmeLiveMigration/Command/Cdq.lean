import NvmeLiveMigration.Command.Passthru

/-! The Controller Data Queue handlers: `lm_create_cdq`, `lm_delete_cdq`, and the CDQ feature
handlers `lm_set_cdq` and `lm_get_cdq` with the printer `lm_show_controller_data_queue`. -/

namespace Lm.Command
open Lm.StateData

/-- `sizeof(struct lba_migration_queue_entry_type_0)`. -/
def sizeofLbaMigrationQueueEntryType0 : Nat := 32

/-- `sizeof(struct controller_data_queue_fid_data)`. -/
def sizeofControllerDataQueueFidData : Nat := 512

/-- The `struct config` of `lm_create_cdq`; `consent` and `file` are never read. -/
structure CreateCdqConfig where
  sz : UInt32
  cntlid : UInt16
  qt : UInt8
  deriving DecidableEq, Repr

/-- The `struct config` of `lm_delete_cdq`. -/
structure DeleteCdqConfig where
  cdqid : UInt16
  deriving DecidableEq, Repr

/-- The `struct config` of `lm_set_cdq`. -/
structure SetCdqConfig where
  cdqid : UInt16
  hp : UInt32
  tpt : S32

/-- The `struct config` of `lm_get_cdq`. `output_format` starts as `"normal"` and an option
only replaces it by another string, so it is never `NULL`. -/
structure GetCdqConfig where
  cdqid : UInt16
  outputFormat : String
  deriving DecidableEq, Repr

/-- The command of `lm_create_cdq` (lines 141-148) on the queue buffer at `queue`. -/
def createCdqCmd (cfg : CreateCdqConfig) (queue : UInt64) : PassthruCmd where
  opcode := nvmeAdminControllerDataQueue
  cdw10 := cfg.qt.toUInt32 <<< 16 ||| createControllerDataQueue
  cdw11 := cfg.cntlid.toUInt32 <<< 16 ||| 1
  cdw12 := cfg.sz
  addr := queue
  dataLen := cfg.sz <<< 2

/-- `lm_create_cdq` (lines 86-159) after `parse_and_open`. -/
def lmCreateCdq (io : Collaborators) (cfg : CreateCdqConfig) : Run :=
  if cfg.sz.toNat % (sizeofLbaMigrationQueueEntryType0 >>> 2) ≠ 0 then
    .fail [.showError "ERROR: Size must be dword multiple of queue entry size" []] einval
  else
    let len := (cfg.sz <<< 2).toNat
    let queue := io.allocHuge len
    if queue = 0 then
      .fail [.allocHuge len, .showError "ERROR: nvme_alloc of size %dB failed %s" [len]] (-enomem)
    else
      let cmd := createCdqCmd cfg queue
      let (err, result, _) := io.submitAdminPassthru cmd
      ⟨[.allocHuge len, .submit cmd] ++
        reportStatus err (.print "Create CDQ Successful: CDQID=0x%04x\n" [(result &&& 0xFFFF).toNat])
          "ERROR: nvme_submit_admin_passthru() failed: %s", .returned err⟩

theorem lmCreateCdq_submitted (io : Collaborators) (cfg : CreateCdqConfig) :
    (lmCreateCdq io cfg).submitted =
      if cfg.sz.toNat % 8 = 0 ∧ io.allocHuge (cfg.sz <<< 2).toNat ≠ 0 then
        some (createCdqCmd cfg (io.allocHuge (cfg.sz <<< 2).toNat))
      else none := by
  unfold lmCreateCdq
  simp only [sizeofLbaMigrationQueueEntryType0, Nat.reduceShiftRight]
  split_ifs <;> simp_all [Event.cmd?]

/-- The command of `lm_delete_cdq` (lines 186-190). -/
def deleteCdqCmd (cfg : DeleteCdqConfig) : PassthruCmd where
  opcode := nvmeAdminControllerDataQueue
  cdw10 := deleteControllerDataQueue
  cdw11 := cfg.cdqid.toUInt32

/-- `lm_delete_cdq` (lines 161-202) after `parse_and_open`. -/
def lmDeleteCdq (io : Collaborators) (cfg : DeleteCdqConfig) : Run :=
  let cmd := deleteCdqCmd cfg
  let (err, _, _) := io.submitAdminPassthru cmd
  ⟨.submit cmd :: reportStatus err (.print "Delete CDQ Successful: CDQID=0x%04x\n" [cfg.cdqid.toNat])
    "ERROR: nvme_submit_admin_passthru() failed: %s", .returned err⟩

theorem lmDeleteCdq_submitted (io : Collaborators) (cfg : DeleteCdqConfig) :
    (lmDeleteCdq io cfg).submitted = some (deleteCdqCmd cfg) := rfl

/-- The arguments of `nvme_set_features` in `lm_set_cdq` (lines 875-882): bit 31 of CDW11
requests a tail event exactly when the trigger is not negative. -/
def setCdqArgs (cfg : SetCdqConfig) : SetFeaturesArgs where
  fid := lmCdqFeatureId
  cdw11 := cfg.cdqid.toUInt32 ||| (if 0 ≤ cfg.tpt.val then (1 : UInt32) <<< 31 else 0)
  cdw12 := cfg.hp
  cdw13 := cfg.tpt.toUInt32

/-- `lm_set_cdq` (lines 840-893) after `parse_and_open`. -/
def lmSetCdq (io : Collaborators) (cfg : SetCdqConfig) : Run :=
  let args := setCdqArgs cfg
  let err := io.setFeatures args
  ⟨.setFeatures args :: reportStatus err (.print "Success. Head Pointer: %d\n" [cfg.hp.toNat])
    "ERROR: nvme_set_features() failed %s", .returned err⟩

theorem lmSetCdq_featureSet (io : Collaborators) (cfg : SetCdqConfig) :
    (lmSetCdq io cfg).featureSet = some (setCdqArgs cfg) := rfl

/-- `json_lm_controller_data_queue` (lines 901-911). -/
def jsonLmControllerDataQueue (host : ByteOrder) (data : Nat → UInt8) : JsonValue :=
  .object [("head_pointer", .uint (host.loadLe data 0 4)),
    ("tail_pointer_trigger", .uint (host.loadLe data 4 4))]

/-- `lm_show_controller_data_queue` (lines 913-924). -/
def lmShowControllerDataQueue (host : ByteOrder) (data : Nat → UInt8) (flags : PrintFlags) :
    CdqOutput :=
  if flags.json then .json (jsonLmControllerDataQueue host data)
  else if flags.binary then .raw (bytesAt data 0 sizeofControllerDataQueueFidData)
  else .text (host.loadLe data 0 4) (host.loadLe data 4 4)

/-- The arguments of `nvme_get_features` in `lm_get_cdq` (lines 963-970). -/
def getCdqArgs (cfg : GetCdqConfig) : GetFeaturesArgs where
  fid := lmCdqFeatureId
  cdw11 := cfg.cdqid.toUInt32
  dataLen := UInt32.ofNat sizeofControllerDataQueueFidData

/-- `lm_get_cdq` (lines 926-982) after `parse_and_open`. -/
def lmGetCdq (io : Collaborators) (cfg : GetCdqConfig) : Run :=
  let (err, flags) := io.validateOutputFormat cfg.outputFormat
  if err < 0 then .fail [.showError "Invalid output format" []] err
  else
    let args := getCdqArgs cfg
    let (err, data) := io.getFeatures args
    ⟨.getFeatures args :: reportStatus err
      (.showControllerDataQueue (lmShowControllerDataQueue io.host data flags))
      "ERROR: nvme_get_features() failed %s", .returned err⟩

theorem lmGetCdq_featureGet (io : Collaborators) (cfg : GetCdqConfig) :
    (lmGetCdq io cfg).featureGet =
      if (io.validateOutputFormat cfg.outputFormat).1 < 0 then none else some (getCdqArgs cfg) := by
  unfold lmGetCdq
  rcases io.validateOutputFormat cfg.outputFormat with ⟨err, flags⟩
  dsimp only
  split_ifs <;> rfl

end Lm.Command
