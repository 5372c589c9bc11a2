import NvmeLiveMigration.Command.Cdq
import NvmeLiveMigration.Command.Migration

/-! Buffer lengths. The handlers compute every length as a `__u32` shift, `n << 2` or
`(n + 1) << 2`, so a length is four times the dword count only below `2^30` dwords; past that
it wraps. The payload read and the decoder always move exactly the allocated length, while the
output-file write of Migration Receive asks for `numd << 2` bytes out of a buffer of
`(numd + 1) << 2`, which overruns exactly when `numd mod 2^30 = 2^30 - 1`. -/

namespace Lm.Command
open Lm.StateData Lm.Word

theorem toNat_dwordBytes (n : UInt32) : (n <<< 2).toNat = 4 * n.toNat % 2 ^ 32 := by
  simp only [toNat_shiftLeft32, toNat_lit32, Nat.reduceMod, Nat.reducePow]
  omega

theorem toNat_succ_dwordBytes (n : UInt32) :
    ((n + 1) <<< 2).toNat = 4 * (n.toNat + 1) % 2 ^ 32 := by
  simp only [toNat_dwordBytes, UInt32.toNat_add, toNat_lit32, UInt32.size, Nat.reduceMod,
    Nat.reducePow]
  omega

/-- The byte count an event moves through the handler's buffer: the payload `fread`, the
output-file `fwrite`, and the `len` handed to `show_controller_state_data`, which bounds the raw
dump and the decoders. -/
def Event.transferLen? : Event → Option Nat
  | .fread len | .fwrite len | .showControllerState len _ => some len
  | _ => none

def Event.allocLen? : Event → Option Nat
  | .allocHuge len => some len
  | _ => none

theorem reportStatus_transfers (err : Int) (fmt : String) (args : List Nat) (failure : String) :
    (reportStatus err (.print fmt args) failure).filterMap Event.transferLen? = [] := by
  unfold reportStatus
  split_ifs <;> rfl

theorem reportStatus_allocated (err : Int) (fmt : String) (args : List Nat) (failure : String) :
    (reportStatus err (.print fmt args) failure).findSome? Event.allocLen? = none := by
  unfold reportStatus
  split_ifs <;> rfl

namespace Run

def allocated (r : Run) : Option Nat := r.events.findSome? Event.allocLen?

def transfers (r : Run) : List Nat := r.events.filterMap Event.transferLen?

/-- Every transfer of the run stays within the buffer it allocated. -/
def TransfersFit (r : Run) : Prop := ∀ n ∈ r.transfers, ∃ a, r.allocated = some a ∧ n ≤ a

@[simp] theorem allocated_mk (events : List Event) (exit : Exit) :
    (Run.mk events exit).allocated = events.findSome? Event.allocLen? := rfl

@[simp] theorem transfers_mk (events : List Event) (exit : Exit) :
    (Run.mk events exit).transfers = events.filterMap Event.transferLen? := rfl

@[simp] theorem allocated_fail (events : List Event) (code : Int) :
    (fail events code).allocated = events.findSome? Event.allocLen? := rfl

@[simp] theorem transfers_fail (events : List Event) (code : Int) :
    (fail events code).transfers = events.filterMap Event.transferLen? := rfl

@[simp] theorem allocated_after (pre : List Event) (r : Run) :
    (after pre r).allocated = (pre.findSome? Event.allocLen?).or r.allocated := by
  simp only [allocated, after_events, List.findSome?_append]

@[simp] theorem transfers_after (pre : List Event) (r : Run) :
    (after pre r).transfers = pre.filterMap Event.transferLen? ++ r.transfers := by
  simp only [transfers, after_events, List.filterMap_append]

@[simp] theorem allocated_cleanupFile (r : Run) : (cleanupFile r).allocated = r.allocated := rfl

@[simp] theorem transfers_cleanupFile (r : Run) : (cleanupFile r).transfers = r.transfers := rfl

end Run

section Runs
variable (io : Collaborators)

theorem migrationSendSubmit_transfers (cfg : MigrationSendConfig) (data : UInt64) :
    (migrationSendSubmit io cfg data).transfers = [] ∧
      (migrationSendSubmit io cfg data).allocated = none := by
  simp only [migrationSendSubmit, Run.transfers_mk, Run.allocated_mk, List.filterMap_cons,
    List.findSome?_cons, Event.transferLen?, Event.allocLen?, reportStatus_transfers,
    reportStatus_allocated, and_self]

theorem lmCreateCdq_allocated (cfg : CreateCdqConfig) :
    (lmCreateCdq io cfg).allocated =
      if cfg.sz.toNat % 8 = 0 then some (cfg.sz <<< 2).toNat else none := by
  unfold lmCreateCdq
  simp only [sizeofLbaMigrationQueueEntryType0, Nat.reduceShiftRight]
  split_ifs <;> simp_all [Event.allocLen?, reportStatus_allocated]

theorem migrationSendPayload_buffer (cfg : MigrationSendConfig) :
    (∀ a, (migrationSendPayload io cfg).allocated = some a → a = (cfg.numd <<< 2).toNat) ∧
    ((migrationSendPayload io cfg).transfers = [] ∨
      (migrationSendPayload io cfg).transfers = [(cfg.numd <<< 2).toNat] ∧
        (migrationSendPayload io cfg).allocated = some (cfg.numd <<< 2).toNat) := by
  have hsub := migrationSendSubmit_transfers io cfg
  rcases migrationSendPayload_cases io cfg with
    ⟨-, hr⟩ | ⟨path, -, ⟨-, hr⟩ | ⟨-, hr⟩ | ⟨-, hr⟩ | ⟨-, hr⟩⟩ <;>
    simp [hr, hsub, Event.transferLen?, Event.allocLen?, eq_comm]

theorem lmMigrationSend_buffer (cfg : MigrationSendConfig) :
    (∀ a, (lmMigrationSend io cfg).allocated = some a → a = (cfg.numd <<< 2).toNat) ∧
    ((lmMigrationSend io cfg).transfers = [] ∨
      (lmMigrationSend io cfg).transfers = [(cfg.numd <<< 2).toNat] ∧
        (lmMigrationSend io cfg).allocated = some (cfg.numd <<< 2).toNat) := by
  rcases lmMigrationSend_cases io cfg with ⟨-, hr⟩ | ⟨-, hr | hr | hr⟩ <;> rw [hr]
  · exact migrationSendPayload_buffer io cfg
  all_goals simp [Event.transferLen?, Event.allocLen?]

theorem migrationRecvShow_transfers (cfg : MigrationRecvConfig) (flags : PrintFlags)
    (stream : Option Bool) (result : UInt32) (buf : Nat → UInt8) :
    (∀ n ∈ (migrationRecvShow io cfg flags stream result buf).transfers,
      n = (cfg.numd <<< 2).toNat ∨ n = ((cfg.numd + 1) <<< 2).toNat) ∧
    (migrationRecvShow io cfg flags stream result buf).allocated = none := by
  unfold migrationRecvShow
  rcases stream with _ | _ | _ <;> dsimp only <;> split_ifs <;>
    simp only [List.singleton_append, List.nil_append, Run.transfers_mk, Run.allocated_mk,
      List.filterMap_cons, List.filterMap_nil, List.findSome?_cons, List.findSome?_nil,
      Event.transferLen?, Event.allocLen?, List.mem_singleton, List.not_mem_nil, forall_eq,
      IsEmpty.forall_iff, implies_true, or_true, true_or, and_self]

theorem migrationRecvOutput_transfers (cfg : MigrationRecvConfig) :
    (migrationRecvOutput io cfg).1.filterMap Event.transferLen? = [] ∧
      (migrationRecvOutput io cfg).1.findSome? Event.allocLen? = none := by
  unfold migrationRecvOutput
  rcases cfg.output with _ | path
  · exact ⟨rfl, rfl⟩
  · dsimp only
    split_ifs <;> exact ⟨rfl, rfl⟩

theorem lmMigrationRecv_allocated (cfg : MigrationRecvConfig) :
    (lmMigrationRecv io cfg).allocated =
      if (io.validateOutputFormat cfg.outputFormat).1 < 0 ∨
          (cfg.offset ≠ 0 ∧ ¬(io.validateOutputFormat cfg.outputFormat).2.binary) then none
      else some ((cfg.numd + 1) <<< 2).toNat := by
  rcases hv : io.validateOutputFormat cfg.outputFormat with ⟨err, flags⟩
  rcases ho : migrationRecvOutput io cfg with ⟨opened, stream⟩
  obtain ⟨-, hout⟩ := migrationRecvOutput_transfers io cfg
  rw [ho] at hout
  simp only [hv]
  rcases lmMigrationRecv_cases io cfg hv ho with ⟨h1, hr⟩ | ⟨-, h2, hr⟩ | ⟨h1, h2, -, hr⟩ |
    ⟨h1, h2, -, status, result, buf, -, ⟨-, hr⟩ | ⟨-, -, hr⟩ | ⟨-, hr⟩⟩ <;> rw [hr]
  · rw [if_pos (.inl h1)]
    rfl
  · rw [if_pos (.inr h2)]
    rfl
  all_goals
    rw [if_neg (not_or.mpr ⟨h1, h2⟩)]
    simp only [Run.allocated_fail, Run.allocated_mk, Run.allocated_after, List.findSome?_append,
      List.findSome?_cons, Event.allocLen?, hout, Option.none_or, Option.or_some]

theorem lmMigrationRecv_transfers (cfg : MigrationRecvConfig) :
    ∀ n ∈ (lmMigrationRecv io cfg).transfers,
      (lmMigrationRecv io cfg).allocated = some ((cfg.numd + 1) <<< 2).toNat ∧
        (n = (cfg.numd <<< 2).toNat ∨ n = ((cfg.numd + 1) <<< 2).toNat) := by
  intro n hn
  rcases hv : io.validateOutputFormat cfg.outputFormat with ⟨err, flags⟩
  rcases ho : migrationRecvOutput io cfg with ⟨opened, stream⟩
  obtain ⟨hout, hout'⟩ := migrationRecvOutput_transfers io cfg
  rw [ho] at hout hout'
  rcases lmMigrationRecv_cases io cfg hv ho with ⟨-, hr⟩ | ⟨-, -, hr⟩ | ⟨-, -, -, hr⟩ |
    ⟨-, -, -, status, result, buf, -, ⟨-, hr⟩ | ⟨-, -, hr⟩ | ⟨-, hr⟩⟩ <;> rw [hr] at hn ⊢ <;>
    simp only [Run.transfers_fail, Run.transfers_mk, Run.transfers_after, List.filterMap_append,
      List.filterMap_cons, List.filterMap_nil, Event.transferLen?, hout, List.nil_append,
      List.append_nil, List.not_mem_nil] at hn
  refine ⟨?_, (migrationRecvShow_transfers io cfg _ _ _ _).1 n hn⟩
  simp only [Run.allocated_after, List.findSome?_append, List.findSome?_cons, Event.allocLen?,
    hout', Option.none_or, Option.or_some]

end Runs

/-- The submitted lengths against the dword counts the command carries: Create CDQ and
Migration Receive allocate exactly `data_len` bytes, Migration Send allocates either nothing or
`data_len` bytes, and `data_len` is four times the count (four times the count plus one for
Migration Receive) exactly while that product fits in 32 bits. -/
theorem dword_lengths_exact_iff (io : Collaborators) :
    (∀ cfg cmd, (lmCreateCdq io cfg).submitted = some cmd →
      (lmCreateCdq io cfg).allocated = some cmd.dataLen.toNat ∧
        (cmd.dataLen.toNat = 4 * cmd.cdw12.toNat ↔ cmd.cdw12.toNat < 2 ^ 30)) ∧
    (∀ cfg cmd, (lmMigrationSend io cfg).submitted = some cmd →
      (∀ a, (lmMigrationSend io cfg).allocated = some a → a = cmd.dataLen.toNat) ∧
        (cmd.dataLen.toNat = 4 * cmd.cdw15.toNat ↔ cmd.cdw15.toNat < 2 ^ 30)) ∧
    (∀ cfg cmd, (lmMigrationRecv io cfg).submitted = some cmd →
      (lmMigrationRecv io cfg).allocated = some cmd.dataLen.toNat ∧
        (cmd.dataLen.toNat = 4 * (cmd.cdw15.toNat + 1) ↔ cmd.cdw15.toNat < 2 ^ 30 - 1)) := by
  refine ⟨fun cfg cmd h => ?_, fun cfg cmd h => ?_, fun cfg cmd h => ?_⟩
  · rw [lmCreateCdq_submitted] at h
    split_ifs at h with hok
    cases h
    refine ⟨by rw [lmCreateCdq_allocated, if_pos hok.1]; rfl, ?_⟩
    simp only [createCdqCmd, toNat_dwordBytes]
    have := u32_lt cfg.sz
    omega
  · rw [lmMigrationSend_submitted] at h
    split_ifs at h
    obtain ⟨data, -, rfl⟩ := Option.map_eq_some'.mp h
    refine ⟨(lmMigrationSend_buffer io cfg).1, ?_⟩
    simp only [migrationSendCmd, toNat_dwordBytes]
    have := u32_lt cfg.numd
    omega
  · rw [lmMigrationRecv_submitted] at h
    split_ifs at h with hfail
    cases h
    refine ⟨by rw [lmMigrationRecv_allocated, if_neg (by tauto)]; rfl, ?_⟩
    simp only [migrationRecvCmd, toNat_succ_dwordBytes]
    have := u32_lt cfg.numd
    omega

/-- The payload `fread` of Migration Send asks for exactly the length it allocated; the
transfers of Migration Receive fit its buffer unless `numd mod 2^30 = 2^30 - 1`. -/
theorem transfers_fit_allocation (io : Collaborators) :
    (∀ cfg, ∀ n ∈ (lmMigrationSend io cfg).transfers, (lmMigrationSend io cfg).allocated = some n) ∧
    (∀ cfg : MigrationRecvConfig, cfg.numd.toNat % 2 ^ 30 ≠ 2 ^ 30 - 1 →
      (lmMigrationRecv io cfg).TransfersFit) := by
  refine ⟨fun cfg n hn => ?_, fun cfg hnumd n hn => ?_⟩
  · rcases (lmMigrationSend_buffer io cfg).2 with h | ⟨h, ha⟩
    · exact absurd hn (h ▸ List.not_mem_nil n)
    · rw [ha, List.mem_singleton.1 (h ▸ hn : n ∈ [_])]
  · obtain ⟨ha, hn⟩ := lmMigrationRecv_transfers io cfg n hn
    refine ⟨_, ha, ?_⟩
    rw [toNat_succ_dwordBytes] at hn ⊢
    rw [toNat_dwordBytes] at hn
    have := u32_lt cfg.numd
    omega

/-- Migration Receive of `2^30 - 1` dwords into the file `state.bin`. -/
def recvToFileAtLimit : MigrationRecvConfig :=
  { MigrationRecvConfig.default with numd := 0x3FFFFFFF, output := some "state.bin" }

/-- Create CDQ of `2^30` dwords allocates and describes 0 bytes; Migration Receive of
`2^30 - 1` dwords into a file allocates 0 bytes, sends `data_len = 0`, and then writes
`0xFFFFFFFC` bytes out of that buffer. -/
theorem lengths_wrap_at_dword_limit :
    (lmCreateCdq Collaborators.succeeding ⟨0x40000000, 0, 0⟩).allocated = some 0 ∧
    (lmCreateCdq Collaborators.succeeding ⟨0x40000000, 0, 0⟩).submitted =
      some (createCdqCmd ⟨0x40000000, 0, 0⟩ 0x1000) ∧
    (createCdqCmd ⟨0x40000000, 0, 0⟩ 0x1000).dataLen = 0 ∧
    (lmMigrationRecv Collaborators.succeeding recvToFileAtLimit).allocated = some 0 ∧
    (lmMigrationRecv Collaborators.succeeding recvToFileAtLimit).submitted =
      some (migrationRecvCmd recvToFileAtLimit 0x1000) ∧
    (migrationRecvCmd recvToFileAtLimit 0x1000).dataLen = 0 ∧
    (lmMigrationRecv Collaborators.succeeding recvToFileAtLimit).transfers = [0xFFFFFFFC] :=
  ⟨rfl, rfl, rfl, rfl, rfl, rfl, rfl⟩

end Lm.Command
