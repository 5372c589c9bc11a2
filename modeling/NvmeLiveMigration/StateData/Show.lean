import NvmeLiveMigration.StateData.Records

/-! `show_controller_state_data` and `json_controller_state_data`: the formatted and the JSON
renderings of a Migration Receive buffer. The text path threads the remaining length `len`
through the header, the NVMe controller state header and the two queue arrays, clamping each
count to what is left; the JSON path reads the same structures with no length check. -/

namespace Lm.StateData

/-- `enum nvme_print_flags` (nvme-print.h, not under src/). The plugin only tests its `VERBOSE`,
`JSON` and `BINARY` bits and compares it with `NORMAL`, so it is the record of those three
bits. -/
structure PrintFlags where
  verbose : Bool
  json : Bool
  binary : Bool
  deriving DecidableEq, Repr

/-- `NORMAL`: no bit set. -/
def PrintFlags.normal : PrintFlags := ⟨false, false, false⟩

/-- One block of lines printed by `show_controller_state_data`, with the values it prints; the
verbose sub-field lines are present only in human-readable mode. -/
inductive StateItem
  | warning (text : String)
  | header (ver csattr : Nat) (suspended : Option Nat) (nvmecss vss : Nat)
  | nvmeHeader (ver niosq niocq : Nat)
  | submissionQueue (i : Nat) (sq : NvmeIoSubmissionQueueData) (prioContig : Option (Nat × Nat))
  | completionQueue (i : Nat) (cq : NvmeIoCompletionQueueData)
      (vecPhaseIenContig : Option (Nat × Nat × Nat × Nat))
  deriving DecidableEq, Repr

/-- A JSON value as `json_create_object`/`json_create_array` build it. -/
inductive JsonValue
  | uint (n : Nat)
  | object (fields : List (String × JsonValue))
  | array (items : List JsonValue)
  deriving Repr

/-- What `show_controller_state_data` emits: `d_raw`, an error, a JSON tree or text. -/
inductive StateOutput
  | raw (bytes : List UInt8)
  | error (text : String)
  | json (value : JsonValue)
  | text (items : List StateItem)
  deriving Repr

/-- The I/O submission queue block `[i]`; `IOSQA` bits `[2:1]` and `[0:0]` in verbose mode. -/
def sqItem (human : Bool) (i : Nat) (sq : NvmeIoSubmissionQueueData) : StateItem :=
  .submissionQueue i sq (if human then some ((sq.attrs &&& 0x6) >>> 1, sq.attrs &&& 1) else none)

/-- The I/O completion queue block `[i]`; `IOCQA` bits `[31:16]`, `[2]`, `[1]`, `[0]` in verbose
mode. -/
def cqItem (human : Bool) (i : Nat) (cq : NvmeIoCompletionQueueData) : StateItem :=
  .completionQueue i cq (if human then
    some (cq.attrs >>> 16, (cq.attrs >>> 2) &&& 1, (cq.attrs >>> 1) &&& 1, cq.attrs &&& 1)
  else none)

/-- The formatted rendering, the body of `show_controller_state_data` after its flag tests
(lines 606-709). -/
def controllerStateText (host : ByteOrder) (human : Bool) (mem : Nat → UInt8) (len : Nat) :
    List StateItem :=
  let (head, len) :=
    if sizeofControllerStateDataHeader ≤ len then
      ([.header (host.load mem 0 2) (mem 2).toNat
          (if human then some ((mem 2).toNat &&& 1) else none)
          (host.loadLe mem 16 16) (host.loadLe mem 32 16)],
        len - sizeofControllerStateDataHeader)
    else ([.warning "WARNING: Header truncated"], 0)
  if len = 0 then head
  else if sizeofNvmeControllerStateHeader ≤ len then
    let niosq := host.load mem 50 2
    let niocq := host.load mem 52 2
    let nvme := StateItem.nvmeHeader (host.loadLe mem 48 2) (host.leToCpu 2 niosq)
      (host.leToCpu 2 niocq)
    let len := len - sizeofNvmeControllerStateHeader
    let sqTruncated := decide (len < niosq * sizeofNvmeIoQueueData)
    let niosq := if sqTruncated then len / sizeofNvmeIoQueueData else niosq
    let sqs := (List.range niosq).map fun i =>
      sqItem human i (NvmeIoSubmissionQueueData.load host mem (56 + sizeofNvmeIoQueueData * i))
    let len := len - niosq * sizeofNvmeIoQueueData
    let cqTruncated := decide (len < niocq * sizeofNvmeIoQueueData)
    let niocq := if cqTruncated then len / sizeofNvmeIoQueueData else niocq
    let cqs := (List.range niocq).map fun i =>
      cqItem human i
        (NvmeIoCompletionQueueData.load host mem (56 + sizeofNvmeIoQueueData * (niosq + i)))
    head ++ nvme ::
      ((if sqTruncated then [.warning "WARNING: I/O Submission Queues truncated"] else []) ++
        sqs ++
        (if cqTruncated then [.warning "WARNING: I/O Completion Queues truncated"] else []) ++
        cqs)
  else head ++ [.warning "WARNING: NVMe Controller State Data Structure truncated"]

def sqObject (sq : NvmeIoSubmissionQueueData) : JsonValue :=
  .object [("io submission prp entry 1", .uint sq.prp1),
    ("io submission queue size", .uint sq.qsize),
    ("io submission queue identifier", .uint sq.qid),
    ("io completion queue identifier", .uint sq.cqid),
    ("io submission queue attributes", .uint sq.attrs),
    ("io submission queue head pointer", .uint sq.hp),
    ("io submission queue tail pointer", .uint sq.tp)]

def cqObject (cq : NvmeIoCompletionQueueData) : JsonValue :=
  .object [("io completion prp entry 1", .uint cq.prp1),
    ("io completion queue size", .uint cq.qsize),
    ("io completion queue identifier", .uint cq.qid),
    ("io completion queue head pointer", .uint cq.hp),
    ("io completion queue tail pointer", .uint cq.tp),
    ("io completion queue attributes", .uint cq.attrs)]

/-- `json_controller_state_data` (lines 515-590). Its `len` argument is never read. -/
def jsonControllerStateData (host : ByteOrder) (mem : Nat → UInt8) (_len : Nat) : JsonValue :=
  .object [("version", .uint (host.loadLe mem 0 2)),
    ("controller state attributes", .uint (mem 2).toNat),
    ("nvme controller state size", .uint (host.loadLe mem 16 16)),
    ("vendor specific size", .uint (host.loadLe mem 32 16)),
    ("nvme controller state", .object [("version", .uint (host.loadLe mem 48 2)),
      ("number of io submission queues", .uint (host.loadLe mem 50 2)),
      ("number of io completion queues", .uint (host.loadLe mem 52 2)),
      ("io submission queue list", .array ((List.range (host.load mem 50 2)).map fun i =>
        sqObject (NvmeIoSubmissionQueueData.load host mem (56 + sizeofNvmeIoQueueData * i)))),
      ("io completion queue list", .array ((List.range (host.load mem 52 2)).map fun i =>
        cqObject (NvmeIoCompletionQueueData.load host mem (56 + sizeofNvmeIoQueueData * i))))])]

/-- `show_controller_state_data(data, len, offset, flags)` (lines 592-710). -/
def showControllerStateData (host : ByteOrder) (mem : Nat → UInt8) (len : Nat) (offset : UInt32)
    (flags : PrintFlags) : StateOutput :=
  if flags.binary then .raw (bytesAt mem 0 len)
  else if offset ≠ 0 then .error "Cannot parse non-zero offset"
  else if flags.json then .json (jsonControllerStateData host mem len)
  else .text (controllerStateText host flags.verbose mem len)

end Lm.StateData
