import NvmeLiveMigration.Wire.Bytes

/-! The controller state data structures of the Migration Receive buffer: the 48-byte
`controller_state_data_header`, the 8-byte `nvme_controller_state_header`, and the 24-byte
queue records that follow it, submission queues first. -/

namespace Lm.StateData

/-- `sizeof(struct controller_state_data_header)`. -/
def sizeofControllerStateDataHeader : Nat := 48

/-- `sizeof(struct nvme_controller_state_header)`. -/
def sizeofNvmeControllerStateHeader : Nat := 8

/-- `sizeof(struct nvme_io_submission_queue_data)`, equal to the completion queue record's. -/
def sizeofNvmeIoQueueData : Nat := 24

/-- `struct nvme_io_submission_queue_data`, each field converted by `leN_to_cpu`. -/
structure NvmeIoSubmissionQueueData where
  prp1 : Nat
  qsize : Nat
  qid : Nat
  cqid : Nat
  attrs : Nat
  hp : Nat
  tp : Nat
  deriving DecidableEq, Repr

/-- `struct nvme_io_completion_queue_data`, each field converted by `leN_to_cpu`. -/
structure NvmeIoCompletionQueueData where
  prp1 : Nat
  qsize : Nat
  qid : Nat
  hp : Nat
  tp : Nat
  attrs : Nat
  deriving DecidableEq, Repr

/-- The little-endian field of `w` bytes at `a` inside a record's bytes. -/
def field (bs : List UInt8) (a w : Nat) : Nat := leValue ((bs.drop a).take w)

namespace NvmeIoSubmissionQueueData

/-- The fields the plugin reads from `sq = &data->sdata.sq[i]` at offset `off`. -/
def load (host : ByteOrder) (mem : Nat → UInt8) (off : Nat) : NvmeIoSubmissionQueueData where
  prp1 := host.loadLe mem off 8
  qsize := host.loadLe mem (off + 8) 2
  qid := host.loadLe mem (off + 10) 2
  cqid := host.loadLe mem (off + 12) 2
  attrs := host.loadLe mem (off + 14) 2
  hp := host.loadLe mem (off + 16) 2
  tp := host.loadLe mem (off + 18) 2

def ofBytes (bs : List UInt8) : NvmeIoSubmissionQueueData :=
  ⟨field bs 0 8, field bs 8 2, field bs 10 2, field bs 12 2, field bs 14 2, field bs 16 2,
    field bs 18 2⟩

theorem load_eq (host : ByteOrder) (mem : Nat → UInt8) (off : Nat) :
    load host mem off = ofBytes (bytesAt mem off 24) := by
  simp only [load, ofBytes, field, ByteOrder.loadLe_eq, slice_bytesAt (by decide : 0 + 8 ≤ 24),
    slice_bytesAt (by decide : 8 + 2 ≤ 24), slice_bytesAt (by decide : 10 + 2 ≤ 24),
    slice_bytesAt (by decide : 12 + 2 ≤ 24), slice_bytesAt (by decide : 14 + 2 ≤ 24),
    slice_bytesAt (by decide : 16 + 2 ≤ 24), slice_bytesAt (by decide : 18 + 2 ≤ 24),
    Nat.add_zero]

end NvmeIoSubmissionQueueData

namespace NvmeIoCompletionQueueData

/-- The fields the plugin reads from `cq = &data->sdata.cq[j]` at offset `off`. -/
def load (host : ByteOrder) (mem : Nat → UInt8) (off : Nat) : NvmeIoCompletionQueueData where
  prp1 := host.loadLe mem off 8
  qsize := host.loadLe mem (off + 8) 2
  qid := host.loadLe mem (off + 10) 2
  hp := host.loadLe mem (off + 12) 2
  tp := host.loadLe mem (off + 14) 2
  attrs := host.loadLe mem (off + 16) 4

def ofBytes (bs : List UInt8) : NvmeIoCompletionQueueData :=
  ⟨field bs 0 8, field bs 8 2, field bs 10 2, field bs 12 2, field bs 14 2, field bs 16 4⟩

theorem load_eq (host : ByteOrder) (mem : Nat → UInt8) (off : Nat) :
    load host mem off = ofBytes (bytesAt mem off 24) := by
  simp only [load, ofBytes, field, ByteOrder.loadLe_eq, slice_bytesAt (by decide : 0 + 8 ≤ 24),
    slice_bytesAt (by decide : 8 + 2 ≤ 24), slice_bytesAt (by decide : 10 + 2 ≤ 24),
    slice_bytesAt (by decide : 12 + 2 ≤ 24), slice_bytesAt (by decide : 14 + 2 ≤ 24),
    slice_bytesAt (by decide : 16 + 4 ≤ 24), Nat.add_zero]

end NvmeIoCompletionQueueData

end Lm.StateData
