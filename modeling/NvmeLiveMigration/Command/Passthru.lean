import NvmeLiveMigration.Wire.Word
import NvmeLiveMigration.StateData.Show

/-! The admin commands the plugin builds and the collaborators it calls. A handler is modelled
as a function of its parsed `struct config` and of one behaviour of its collaborators (the
transport, the allocator, the file calls and `errno`), each an arbitrary total function; it
produces the trace of calls and output it makes and how it ends. -/

namespace Lm.Command
open Lm.StateData

/-! The enumerators the handlers use: `enum lm_nvme_admin_opcode` and `enum lm_cdq_select`
(lines 73-84), the Track Send select and management operations (lines 204-217), the Migration
Send and Receive selects (lines 299-303, 712-714) and `lm_cdq_feature_id` (line 837), with the
two `<errno.h>` codes the handlers return. -/

def nvmeAdminTrackSend : UInt8 := 0x3D

def nvmeAdminMigrationSend : UInt8 := 0x41

def nvmeAdminMigrationReceive : UInt8 := 0x42

def nvmeAdminControllerDataQueue : UInt8 := 0x45

def createControllerDataQueue : UInt32 := 0

def deleteControllerDataQueue : UInt32 := 1

def trackSendSelectLogUserDataChanges : UInt8 := 0

def trackSendManagementOperationStopLogging : UInt8 := 0

def trackSendManagementOperationStartLogging : UInt8 := 1

def migrationSendSuspend : UInt8 := 0

def migrationSendResume : UInt8 := 1

def migrationSendSetControllerState : UInt8 := 2

def migrationRecvGetControllerState : UInt32 := 0

def lmCdqFeatureId : UInt8 := 0x21

def einval : Int := 22

def enomem : Int := 12

/-- `struct nvme_passthru_cmd`. The fields the plugin never names are zero in every command it
builds, so they are left out. -/
structure PassthruCmd where
  opcode : UInt8
  cdw10 : UInt32 := 0
  cdw11 : UInt32 := 0
  cdw12 : UInt32 := 0
  cdw13 : UInt32 := 0
  cdw14 : UInt32 := 0
  cdw15 : UInt32 := 0
  addr : UInt64 := 0
  dataLen : UInt32 := 0
  deriving DecidableEq, Repr

/-- `struct nvme_set_features_args` as `lm_set_cdq` fills it. -/
structure SetFeaturesArgs where
  fid : UInt8
  cdw11 : UInt32
  cdw12 : UInt32
  cdw13 : UInt32
  deriving DecidableEq, Repr

/-- `struct nvme_get_features_args` as `lm_get_cdq` fills it. -/
structure GetFeaturesArgs where
  fid : UInt8
  cdw11 : UInt32
  dataLen : UInt32
  deriving DecidableEq, Repr

/-- What `lm_show_controller_data_queue` emits. -/
inductive CdqOutput
  | json (value : JsonValue)
  | raw (bytes : List UInt8)
  | text (hp tpt : Nat)
  deriving Repr

/-- One behaviour of everything a handler calls outside the plugin. -/
structure Collaborators where
  /-- The byte order of the host. -/
  host : ByteOrder
  /-- `nvme_alloc_huge(len)`: the buffer's address, `NULL` when the allocation fails. -/
  allocHuge : Nat → UInt64
  /-- Whether `fopen(path, mode)` returns a stream. -/
  fopen : String → String → Bool
  /-- The count `fread` returns when asked for `n` bytes. -/
  fread : Nat → Nat
  /-- The count `fwrite` returns when asked for `n` bytes. -/
  fwrite : Nat → Nat
  /-- `errno` where the plugin reads it. -/
  errno : Nat
  /-- `nvme_submit_admin_passthru`: its return value, `cmd.result`, and the data buffer after
  the command. -/
  submitAdminPassthru : PassthruCmd → Int × UInt32 × (Nat → UInt8)
  /-- `nvme_set_features`. -/
  setFeatures : SetFeaturesArgs → Int
  /-- `nvme_get_features`: its return value and the 512 bytes of the feature data. -/
  getFeatures : GetFeaturesArgs → Int × (Nat → UInt8)
  /-- `validate_output_format`, which is not under src/: its return value and the flags it sets. -/
  validateOutputFormat : String → Int × PrintFlags

/-- Every call succeeds: allocations at `0x1000`, files that open and move every byte, status 0
with a zeroed buffer, and the normal output format, on a little-endian host. -/
def Collaborators.succeeding : Collaborators where
  host := .little
  allocHuge := fun _ => 0x1000
  fopen := fun _ _ => true
  fread := id
  fwrite := id
  errno := 0
  submitAdminPassthru := fun _ => (0, 0, fun _ => 0)
  setFeatures := fun _ => 0
  getFeatures := fun _ => (0, fun _ => 0)
  validateOutputFormat := fun _ => (0, PrintFlags.normal)

/-- A call to a collaborator, or a message the handler prints. Messages are their format
strings with the numeric arguments; `%s` arguments are left out. -/
inductive Event
  | showError (fmt : String) (args : List Nat)
  | showPerror (path : String)
  | showStatus (status : Int)
  | print (fmt : String) (args : List Nat)
  | allocHuge (len : Nat)
  | fopen (path mode : String)
  | fread (len : Nat)
  | fclose
  | fwrite (len : Nat)
  | submit (cmd : PassthruCmd)
  | setFeatures (args : SetFeaturesArgs)
  | getFeatures (args : GetFeaturesArgs)
  | showControllerState (len : Nat) (out : StateOutput)
  | showControllerDataQueue (out : CdqOutput)
  deriving Repr

/-- How a handler ends: it returns a code, or it reaches undefined behaviour. -/
inductive Exit
  | returned (code : Int)
  | crashed (cause : String)
  deriving DecidableEq, Repr

structure Run where
  events : List Event
  exit : Exit
  deriving Repr

/-- The `if (!err) ... else if (err > 0) nvme_show_status(err); else nvme_show_error(...)` tail
every handler has after its call to the device. -/
def reportStatus (err : Int) (success : Event) (failure : String) : List Event :=
  if err = 0 then [success] else if 0 < err then [.showStatus err] else [.showError failure []]

def Event.cmd? : Event → Option PassthruCmd
  | .submit cmd => some cmd
  | _ => none

def Event.setArgs? : Event → Option SetFeaturesArgs
  | .setFeatures args => some args
  | _ => none

def Event.getArgs? : Event → Option GetFeaturesArgs
  | .getFeatures args => some args
  | _ => none

namespace Run

def submitted (r : Run) : Option PassthruCmd := r.events.findSome? Event.cmd?

def featureSet (r : Run) : Option SetFeaturesArgs := r.events.findSome? Event.setArgs?

def featureGet (r : Run) : Option GetFeaturesArgs := r.events.findSome? Event.getArgs?

/-- An early `return code` after the given messages. -/
def fail (events : List Event) (code : Int) : Run := ⟨events, .returned code⟩

def after (pre : List Event) (r : Run) : Run := ⟨pre ++ r.events, r.exit⟩

@[simp] theorem after_exit (pre : List Event) (r : Run) : (after pre r).exit = r.exit := rfl

@[simp] theorem after_events (pre : List Event) (r : Run) :
    (after pre r).events = pre ++ r.events := rfl

@[simp] theorem fail_exit (events : List Event) (code : Int) :
    (fail events code).exit = .returned code := rfl

@[simp] theorem fail_events (events : List Event) (code : Int) :
    (fail events code).events = events := rfl

@[simp] theorem submitted_mk (events : List Event) (exit : Exit) :
    (Run.mk events exit).submitted = events.findSome? Event.cmd? := rfl

@[simp] theorem submitted_fail (events : List Event) (code : Int) :
    (fail events code).submitted = events.findSome? Event.cmd? := rfl

@[simp] theorem submitted_after (pre : List Event) (r : Run) :
    (after pre r).submitted = (pre.findSome? Event.cmd?).or r.submitted := by
  simp only [submitted, after_events, List.findSome?_append]

end Run

end Lm.Command
