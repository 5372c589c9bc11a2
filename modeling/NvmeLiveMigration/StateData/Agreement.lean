import NvmeLiveMigration.StateData.Tree

/-! Two comparisons of the decoder's outputs: one buffer on hosts of the two byte orders, and
the JSON against the formatted rendering of one buffer. The host's byte order reaches both
renderings only through native loads, of the header version and of the two queue counts that
bound the loops. The JSON rendering reads what those counts reach whatever `len` is, and takes
its completion queues from the submission queue slots. -/

namespace Lm.StateData

section HostOrder
variable (human : Bool) (mem : Nat → UInt8) (len : Nat) {host host' : ByteOrder}

/-- Every value either rendering prints is read little-endian, except the header version and
the two queue counts, which are plain loads: hosts that load those three alike print the same. -/
theorem renderings_host_congr (h0 : host.load mem 0 2 = host'.load mem 0 2)
    (h50 : host.load mem 50 2 = host'.load mem 50 2)
    (h52 : host.load mem 52 2 = host'.load mem 52 2) :
    controllerStateText host human mem len = controllerStateText host' human mem len ∧
      jsonControllerStateData host mem len = jsonControllerStateData host' mem len := by
  constructor
  · simp only [controllerStateText, ByteOrder.leToCpu_load, ByteOrder.loadLe_eq,
      NvmeIoSubmissionQueueData.load_eq, NvmeIoCompletionQueueData.load_eq]
    simp only [h0, h50, h52]
  · simp only [jsonControllerStateData, ByteOrder.loadLe_eq, NvmeIoSubmissionQueueData.load_eq,
      NvmeIoCompletionQueueData.load_eq, h50, h52]

end HostOrder

/-- Version `0x0101` and `0x0101` queues of each kind, the same in either byte order, and
every other byte its own offset. -/
def palindromicCounts : Nat → UInt8 := fun i =>
  if i < 2 ∨ 50 ≤ i ∧ i < 54 then 1 else UInt8.ofNat i

theorem renderings_host_congr_palindromicCounts :
    ByteOrder.little.load palindromicCounts 0 2 = ByteOrder.big.load palindromicCounts 0 2 ∧
    ByteOrder.little.load palindromicCounts 50 2 = ByteOrder.big.load palindromicCounts 50 2 ∧
    ByteOrder.little.load palindromicCounts 52 2 = ByteOrder.big.load palindromicCounts 52 2 ∧
    (controllerStateText .little true palindromicCounts 200 =
        controllerStateText .big true palindromicCounts 200 ∧
      jsonControllerStateData .little palindromicCounts 200 =
        jsonControllerStateData .big palindromicCounts 200) :=
  ⟨rfl, rfl, rfl, renderings_host_congr true _ 200 rfl rfl rfl⟩

/-- The 104 bytes of `oneQueueEach` print differently on the two hosts: the big-endian host
reads version 256 and 256 queues of each kind, prints two submission queue records where the
little-endian host prints one, and drops the completion queue. -/
theorem oneQueueEach_host_divergence :
    controllerStateText .little false oneQueueEach 104 =
      [.header 1 0 none 0 0, .nvmeHeader 0 1 1,
        .submissionQueue 0 ⟨0, 0, 0, 0, 0, 0, 0⟩ none,
        .completionQueue 0 ⟨0, 0, 0, 0, 0, 0⟩ none] ∧
    controllerStateText .big false oneQueueEach 104 =
      [.header 256 0 none 0 0, .nvmeHeader 0 1 1,
        .warning "WARNING: I/O Submission Queues truncated",
        .submissionQueue 0 ⟨0, 0, 0, 0, 0, 0, 0⟩ none,
        .submissionQueue 1 ⟨0, 0, 0, 0, 0, 0, 0⟩ none,
        .warning "WARNING: I/O Completion Queues truncated"] :=
  ⟨rfl, rfl⟩

/-- `oneQueueEach` with byte 90 set to 7: the completion queue identifier of the record in the
second slot, `[80, 104)`, where the formatted rendering finds the completion queue. -/
def oneQueueEachCqid : Nat → UInt8 := fun i => if i = 90 then 7 else oneQueueEach i

section Json
variable (host : ByteOrder) {mem mem' : Nat → UInt8}

/-- What the JSON rendering reads: the two headers and as many 24-byte slots after them as the
larger queue count, whatever `len` is. -/
theorem jsonControllerStateData_footprint (len len' : Nat)
    (h : ∀ i < 56 + 24 * max (host.load mem 50 2) (host.load mem 52 2), mem i = mem' i) :
    jsonControllerStateData host mem len = jsonControllerStateData host mem' len' := by
  have below : ∀ {off w}, off + w ≤ 56 → bytesAt mem off w = bytesAt mem' off w :=
    fun hw => bytesAt_congr_below (fun i hi => h i (by omega)) hw
  have slot : ∀ {n i}, n ≤ max (host.load mem 50 2) (host.load mem 52 2) → i < n →
      bytesAt mem (56 + 24 * i) 24 = bytesAt mem' (56 + 24 * i) 24 := fun hn hi =>
    bytesAt_congr_below h (by omega)
  have h50 : host.load mem 50 2 = host.load mem' 50 2 := by
    simp only [ByteOrder.load, below (by decide : 50 + 2 ≤ 56)]
  have h52 : host.load mem 52 2 = host.load mem' 52 2 := by
    simp only [ByteOrder.load, below (by decide : 52 + 2 ≤ 56)]
  simp only [jsonControllerStateData, ByteOrder.loadLe_eq, NvmeIoSubmissionQueueData.load_eq,
    NvmeIoCompletionQueueData.load_eq, sizeofNvmeIoQueueData, below (by decide : 0 + 2 ≤ 56),
    below (by decide : 16 + 16 ≤ 56), below (by decide : 32 + 16 ≤ 56),
    below (by decide : 48 + 2 ≤ 56), below (by decide : 50 + 2 ≤ 56),
    below (by decide : 52 + 2 ≤ 56), h (2 : Nat) (by omega), ← h50, ← h52]
  simp only [JsonValue.object.injEq, List.cons.injEq, Prod.mk.injEq, JsonValue.array.injEq,
    List.map_inj_left, List.mem_range, true_and, and_true]
  exact ⟨fun i hi => by rw [slot (le_max_left _ _) hi], fun i hi => by rw [slot (le_max_right _ _) hi]⟩

end Json

/-- The JSON of `oneQueueEach` at `len = 0` is its JSON with a changed byte past the one
completion queue slot it reads, at `len = 104`. -/
theorem jsonControllerStateData_footprint_oneQueueEach :
    (∀ i < 56 + 24 * max (ByteOrder.little.load oneQueueEach 50 2)
        (ByteOrder.little.load oneQueueEach 52 2), oneQueueEach i = oneQueueEachCqid i) ∧
    jsonControllerStateData .little oneQueueEach 0 =
      jsonControllerStateData .little oneQueueEachCqid 104 :=
  have h : ∀ i < 56 + 24 * max (ByteOrder.little.load oneQueueEach 50 2)
      (ByteOrder.little.load oneQueueEach 52 2), oneQueueEach i = oneQueueEachCqid i :=
    fun i hi => by
      have hi' : i < 80 := hi
      simp only [oneQueueEachCqid, if_neg (by omega : i ≠ 90)]
  ⟨h, jsonControllerStateData_footprint .little 0 104 h⟩

/-- The JSON rendering reads past `len` (its header at `len = 0`), and with one queue of each
kind in 104 bytes it lists the submission queue slot `[56, 80)` again as the completion queue,
where the formatted rendering prints the record of `[80, 104)`. -/
theorem json_diverges_from_text :
    ¬ReadsBelow 0 (fun m => jsonControllerStateData .little m 0) ∧
    controllerStateText .little false oneQueueEachCqid 104 =
      [.header 1 0 none 0 0, .nvmeHeader 0 1 1,
        .submissionQueue 0 ⟨0, 0, 0, 0, 0, 0, 0⟩ none,
        .completionQueue 0 ⟨0, 0, 7, 0, 0, 0⟩ none] ∧
    jsonControllerStateData .little oneQueueEachCqid 104 =
      .object [("version", .uint 1), ("controller state attributes", .uint 0),
        ("nvme controller state size", .uint 0), ("vendor specific size", .uint 0),
        ("nvme controller state", .object [("version", .uint 0),
          ("number of io submission queues", .uint 1),
          ("number of io completion queues", .uint 1),
          ("io submission queue list", .array [sqObject ⟨0, 0, 0, 0, 0, 0, 0⟩]),
          ("io completion queue list", .array [cqObject ⟨0, 0, 0, 0, 0, 0⟩])])] := by
  refine ⟨fun h => ?_, rfl, rfl⟩
  have h0 := h oneQueueEach (fun _ => 0) (fun i hi => absurd hi (Nat.not_lt_zero i))
  simp only [jsonControllerStateData, JsonValue.object.injEq, List.cons.injEq, Prod.mk.injEq,
    JsonValue.uint.injEq, true_and] at h0
  exact absurd h0.1 (by decide)

end Lm.StateData
