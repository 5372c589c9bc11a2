import NvmeLiveMigration.StateData.Tree

/-! The layout of `struct controller_state_data` (lines 462-513) as an encoder of controller
states, and what `show_controller_state_data` makes of an encoded state on a little-endian host.
The formatted rendering prints back every field and record when the buffer holds the whole
state, and prefixes of the two queue lists when it is shorter. The JSON rendering prints the
submission queues back, but its completion queue list is the first `niocq` records of the queue
area, submission queues first. -/

namespace Lm.StateData

def bufferOf (bs : List UInt8) : Nat → UInt8 := fun i => bs.getD i 0

section Layout

theorem field_leBytes (w x : Nat) (rest : List UInt8) :
    field (leBytes w x ++ rest) 0 w = x % 256 ^ w := by
  rw [field, List.drop_zero, List.take_left' (length_leBytes w x), leValue_leBytes]

theorem field_append_of_le {l : List UInt8} (rest : List UInt8) {a : Nat} (w : Nat)
    (h : l.length ≤ a) : field (l ++ rest) a w = field rest (a - l.length) w := by
  obtain ⟨k, rfl⟩ := Nat.exists_eq_add_of_le h
  rw [field, field, List.drop_append, Nat.add_sub_cancel_left]

theorem slice_flatten {L : List (List UInt8)} {w : Nat} (hL : ∀ l ∈ L, l.length = w) {i : Nat}
    (hi : i < L.length) : (L.flatten.drop (w * i)).take w = L[i] := by
  induction L generalizing i with
  | nil => exact absurd hi (Nat.not_lt_zero i)
  | cons l L ih =>
    have hl := hL l (List.mem_cons_self l L)
    cases i with
    | zero => rw [List.flatten_cons, Nat.mul_zero, List.drop_zero, List.take_left' hl]; rfl
    | succ i =>
      have hw : w * (i + 1) = l.length + w * i := by rw [hl, Nat.mul_succ, Nat.add_comm]
      rw [List.flatten_cons, hw, List.drop_append,
        ih (fun l' h' => hL l' (List.mem_cons_of_mem l h')) (by simpa using hi)]
      rfl

theorem mapIdx_map {α β γ : Type} (f : Nat → β → γ) (g : α → β) (l : List α) :
    (l.map g).mapIdx f = l.mapIdx fun i a => f i (g a) := by
  induction l generalizing f with
  | nil => rfl
  | cons a l ih => simp only [List.map_cons, List.mapIdx_cons, ih]

end Layout

namespace NvmeIoSubmissionQueueData

/-- Every field fits its width in `struct nvme_io_submission_queue_data`. -/
def Fits (sq : NvmeIoSubmissionQueueData) : Prop :=
  sq.prp1 < 256 ^ 8 ∧ sq.qsize < 256 ^ 2 ∧ sq.qid < 256 ^ 2 ∧ sq.cqid < 256 ^ 2 ∧
    sq.attrs < 256 ^ 2 ∧ sq.hp < 256 ^ 2 ∧ sq.tp < 256 ^ 2

/-- The record's 24 wire bytes, the 4 reserved bytes zero. -/
def toBytes (sq : NvmeIoSubmissionQueueData) : List UInt8 :=
  [leBytes 8 sq.prp1, leBytes 2 sq.qsize, leBytes 2 sq.qid, leBytes 2 sq.cqid,
    leBytes 2 sq.attrs, leBytes 2 sq.hp, leBytes 2 sq.tp, List.replicate 4 0].flatten

@[simp] theorem length_toBytes (sq : NvmeIoSubmissionQueueData) : sq.toBytes.length = 24 := by
  simp [toBytes]

theorem ofBytes_toBytes {sq : NvmeIoSubmissionQueueData} (h : sq.Fits) : ofBytes sq.toBytes = sq := by
  obtain ⟨h1, h2, h3, h4, h5, h6, h7⟩ := h
  simp (disch := simp) only [ofBytes, toBytes, List.flatten_cons, List.flatten_nil,
    field_append_of_le, length_leBytes, Nat.reduceSub, field_leBytes, Nat.mod_eq_of_lt h1,
    Nat.mod_eq_of_lt h2, Nat.mod_eq_of_lt h3, Nat.mod_eq_of_lt h4, Nat.mod_eq_of_lt h5,
    Nat.mod_eq_of_lt h6, Nat.mod_eq_of_lt h7]

end NvmeIoSubmissionQueueData

namespace NvmeIoCompletionQueueData

/-- Every field fits its width in `struct nvme_io_completion_queue_data`. -/
def Fits (cq : NvmeIoCompletionQueueData) : Prop :=
  cq.prp1 < 256 ^ 8 ∧ cq.qsize < 256 ^ 2 ∧ cq.qid < 256 ^ 2 ∧ cq.hp < 256 ^ 2 ∧
    cq.tp < 256 ^ 2 ∧ cq.attrs < 256 ^ 4

/-- The record's 24 wire bytes, the 4 reserved bytes zero. -/
def toBytes (cq : NvmeIoCompletionQueueData) : List UInt8 :=
  [leBytes 8 cq.prp1, leBytes 2 cq.qsize, leBytes 2 cq.qid, leBytes 2 cq.hp, leBytes 2 cq.tp,
    leBytes 4 cq.attrs, List.replicate 4 0].flatten

@[simp] theorem length_toBytes (cq : NvmeIoCompletionQueueData) : cq.toBytes.length = 24 := by
  simp [toBytes]

theorem ofBytes_toBytes {cq : NvmeIoCompletionQueueData} (h : cq.Fits) : ofBytes cq.toBytes = cq := by
  obtain ⟨h1, h2, h3, h4, h5, h6⟩ := h
  simp (disch := simp) only [ofBytes, toBytes, List.flatten_cons, List.flatten_nil,
    field_append_of_le, length_leBytes, Nat.reduceSub, field_leBytes, Nat.mod_eq_of_lt h1,
    Nat.mod_eq_of_lt h2, Nat.mod_eq_of_lt h3, Nat.mod_eq_of_lt h4, Nat.mod_eq_of_lt h5,
    Nat.mod_eq_of_lt h6]

end NvmeIoCompletionQueueData

/-- Controller state data: the fields the plugin prints and the queue records in order, each
within its width on the wire. -/
structure ControllerState where
  ver : Nat
  csattr : Nat
  nvmecss : Nat
  vss : Nat
  nvmeVer : Nat
  sqs : List NvmeIoSubmissionQueueData
  cqs : List NvmeIoCompletionQueueData
  ver_lt : ver < 256 ^ 2
  csattr_lt : csattr < 256
  nvmecss_lt : nvmecss < 256 ^ 16
  vss_lt : vss < 256 ^ 16
  nvmeVer_lt : nvmeVer < 256 ^ 2
  niosq_lt : sqs.length < 256 ^ 2
  niocq_lt : cqs.length < 256 ^ 2
  sqs_fit : ∀ sq ∈ sqs, sq.Fits
  cqs_fit : ∀ cq ∈ cqs, cq.Fits

namespace ControllerState
variable (s : ControllerState)

/-- `struct controller_state_data_header`: the version, the attributes, 13 reserved bytes and the
two 128-bit sizes. -/
def header : List UInt8 :=
  [leBytes 2 s.ver, leBytes 1 s.csattr, List.replicate 13 0, leBytes 16 s.nvmecss,
    leBytes 16 s.vss].flatten

/-- `struct nvme_controller_state_header`: the version, the two queue counts and 2 reserved
bytes. -/
def nvmeHeader : List UInt8 :=
  [leBytes 2 s.nvmeVer, leBytes 2 s.sqs.length, leBytes 2 s.cqs.length,
    List.replicate 2 0].flatten

/-- The queue records in the order of `struct nvme_controller_state_data`, submission queues
first. -/
def records : List (List UInt8) :=
  s.sqs.map NvmeIoSubmissionQueueData.toBytes ++ s.cqs.map NvmeIoCompletionQueueData.toBytes

def toBytes : List UInt8 := s.header ++ s.nvmeHeader ++ s.records.flatten

/-- The formatted report of the state: its header, its NVMe header with the two counts, and
each queue record numbered within its array. -/
def report (human : Bool) : List StateItem :=
  .header s.ver s.csattr (if human then some (s.csattr &&& 1) else none) s.nvmecss s.vss ::
    .nvmeHeader s.nvmeVer s.sqs.length s.cqs.length ::
    (s.sqs.mapIdx (sqItem human) ++ s.cqs.mapIdx (cqItem human))

/-- The JSON object of the state's header fields and submission queues, with the completion
queue list `cqs`. -/
def json (cqs : List NvmeIoCompletionQueueData) : JsonValue :=
  .object [("version", .uint s.ver), ("controller state attributes", .uint s.csattr),
    ("nvme controller state size", .uint s.nvmecss), ("vendor specific size", .uint s.vss),
    ("nvme controller state", .object [("version", .uint s.nvmeVer),
      ("number of io submission queues", .uint s.sqs.length),
      ("number of io completion queues", .uint s.cqs.length),
      ("io submission queue list", .array (s.sqs.map sqObject)),
      ("io completion queue list", .array (cqs.map cqObject))])]

@[simp] theorem length_header : s.header.length = 48 := by simp [header]

@[simp] theorem length_nvmeHeader : s.nvmeHeader.length = 8 := by simp [nvmeHeader]

theorem length_records : s.records.length = s.sqs.length + s.cqs.length := by
  simp [records]

theorem length_record {bs : List UInt8} (h : bs ∈ s.records) : bs.length = 24 := by
  simp only [records, List.mem_append, List.mem_map] at h
  rcases h with ⟨sq, -, rfl⟩ | ⟨cq, -, rfl⟩ <;> simp

theorem length_toBytes : s.toBytes.length = 56 + 24 * (s.sqs.length + s.cqs.length) := by
  simp only [toBytes, List.length_append, length_header, length_nvmeHeader, List.length_flatten]
  rw [List.map_congr_left fun _ h => s.length_record h, List.map_const', List.sum_replicate,
    length_records, smul_eq_mul]
  omega

theorem field_header :
    leValue (s.header.take 2) = s.ver ∧ field s.header 2 1 = s.csattr ∧
      field s.header 16 16 = s.nvmecss ∧ field s.header 32 16 = s.vss := by
  simp (disch := simp) only [header, List.flatten_cons, List.flatten_nil, List.take_left',
    length_leBytes, leValue_leBytes, field_append_of_le, List.length_replicate, Nat.reduceSub,
    field_leBytes, Nat.mod_eq_of_lt s.ver_lt, Nat.pow_one, Nat.mod_eq_of_lt s.csattr_lt,
    Nat.mod_eq_of_lt s.nvmecss_lt, Nat.mod_eq_of_lt s.vss_lt, and_self]

theorem field_nvmeHeader :
    field s.nvmeHeader 0 2 = s.nvmeVer ∧ field s.nvmeHeader 2 2 = s.sqs.length ∧
      field s.nvmeHeader 4 2 = s.cqs.length := by
  simp (disch := simp) only [nvmeHeader, List.flatten_cons, List.flatten_nil, field_append_of_le,
    length_leBytes, Nat.reduceSub, field_leBytes, Nat.mod_eq_of_lt s.nvmeVer_lt,
    Nat.mod_eq_of_lt s.niosq_lt, Nat.mod_eq_of_lt s.niocq_lt, and_self]

theorem bytesAt_bufferOf {bs : List UInt8} {off n : Nat} (h : off + n ≤ bs.length) :
    bytesAt (bufferOf bs) off n = (bs.drop off).take n :=
  bytesAt_getD bs h

theorem bytesAt_header : bytesAt (bufferOf s.toBytes) 0 48 = s.header := by
  rw [bytesAt_bufferOf (by rw [length_toBytes]; omega), toBytes, List.drop_zero,
    List.append_assoc, List.take_left' s.length_header]

theorem bytesAt_nvmeHeader : bytesAt (bufferOf s.toBytes) 48 8 = s.nvmeHeader := by
  rw [bytesAt_bufferOf (by rw [length_toBytes]; omega), toBytes, List.append_assoc,
    List.drop_left' s.length_header, List.take_left' s.length_nvmeHeader]

theorem drop_toBytes (n : Nat) : s.toBytes.drop (56 + n) = s.records.flatten.drop n := by
  have h : (s.header ++ s.nvmeHeader).length = 56 := by simp
  rw [toBytes, ← h, List.drop_append]

theorem bytesAt_records (k j : Nat) (h : k + j ≤ s.sqs.length + s.cqs.length) :
    (List.range j).map (fun i => bytesAt (bufferOf s.toBytes) (56 + 24 * (k + i)) 24) =
      (s.records.drop k).take j := by
  apply List.ext_getElem
  · simp only [List.length_map, List.length_range, List.length_take, List.length_drop,
      length_records]
    omega
  · intro i h1 _
    simp only [List.length_map, List.length_range] at h1
    rw [List.getElem_map, List.getElem_range, List.getElem_take, List.getElem_drop,
      bytesAt_bufferOf (by rw [length_toBytes]; omega), drop_toBytes,
      slice_flatten (fun _ => s.length_record) (by rw [length_records]; omega)]

theorem load_counts :
    ByteOrder.little.load (bufferOf s.toBytes) 50 2 = s.sqs.length ∧
      ByteOrder.little.load (bufferOf s.toBytes) 52 2 = s.cqs.length := by
  have h2 : bytesAt (bufferOf s.toBytes) 50 2 = (s.nvmeHeader.drop 2).take 2 := by
    rw [← s.bytesAt_nvmeHeader, slice_bytesAt (by decide : 2 + 2 ≤ 8)]
  have h4 : bytesAt (bufferOf s.toBytes) 52 2 = (s.nvmeHeader.drop 4).take 2 := by
    rw [← s.bytesAt_nvmeHeader, slice_bytesAt (by decide : 4 + 2 ≤ 8)]
  rw [ByteOrder.load_little, ByteOrder.load_little, h2, h4]
  exact ⟨s.field_nvmeHeader.2.1, s.field_nvmeHeader.2.2⟩

theorem sq_slices {k : Nat} (hk : k ≤ s.sqs.length) :
    (List.range k).map (fun i => bytesAt (bufferOf s.toBytes) (56 + 24 * i) 24) =
      (s.sqs.map NvmeIoSubmissionQueueData.toBytes).take k := by
  have h := s.bytesAt_records 0 k (by omega)
  simp only [Nat.zero_add, List.drop_zero] at h
  rw [h, records, List.take_append_of_le_length (by rw [List.length_map]; exact hk)]

theorem cq_slices {c : Nat} (hc : c ≤ s.cqs.length) :
    (List.range c).map (fun i => bytesAt (bufferOf s.toBytes) (56 + 24 * (s.sqs.length + i)) 24) =
      (s.cqs.map NvmeIoCompletionQueueData.toBytes).take c := by
  rw [s.bytesAt_records _ _ (by omega), records, List.drop_left' (List.length_map _ _)]

theorem section43Tree_toBytes {len : Nat} (h : 56 ≤ len) :
    section43Tree .little (bufferOf s.toBytes) len =
      .full s.header
        { hdr := s.nvmeHeader
          sqs := (s.sqs.map NvmeIoSubmissionQueueData.toBytes).take
            (min s.sqs.length ((len - 56) / 24))
          sqTruncated := decide (min s.sqs.length ((len - 56) / 24) < s.sqs.length)
          cqs := (s.cqs.map NvmeIoCompletionQueueData.toBytes).take
            (min s.cqs.length ((len - 56 - 24 * min s.sqs.length ((len - 56) / 24)) / 24))
          cqTruncated := decide (min s.cqs.length
            ((len - 56 - 24 * min s.sqs.length ((len - 56) / 24)) / 24) < s.cqs.length) } := by
  simp only [section43Tree, if_neg (show ¬len < 48 by omega), if_neg (show ¬len < 56 by omega),
    s.load_counts.1, s.load_counts.2, s.bytesAt_header, s.bytesAt_nvmeHeader,
    s.sq_slices (min_le_left _ _)]
  by_cases hc : min s.cqs.length ((len - 56 - 24 * min s.sqs.length ((len - 56) / 24)) / 24) = 0
  · simp only [hc, List.range_zero, List.map_nil, List.take_zero]
  · rw [min_eq_left (show s.sqs.length ≤ (len - 56) / 24 by omega), s.cq_slices (min_le_left _ _)]

theorem map_ofBytes_sqs :
    (s.sqs.map NvmeIoSubmissionQueueData.toBytes).map NvmeIoSubmissionQueueData.ofBytes = s.sqs := by
  rw [List.map_map]
  exact (List.map_congr_left fun sq h =>
    NvmeIoSubmissionQueueData.ofBytes_toBytes (s.sqs_fit sq h)).trans (List.map_id _)

theorem map_ofBytes_cqs :
    (s.cqs.map NvmeIoCompletionQueueData.toBytes).map NvmeIoCompletionQueueData.ofBytes = s.cqs := by
  rw [List.map_map]
  exact (List.map_congr_left fun cq h =>
    NvmeIoCompletionQueueData.ofBytes_toBytes (s.cqs_fit cq h)).trans (List.map_id _)

theorem headerItem_header (human : Bool) :
    headerItem .little human s.header =
      .header s.ver s.csattr (if human then some (s.csattr &&& 1) else none) s.nvmecss s.vss := by
  obtain ⟨h0, h2, h16, h32⟩ := s.field_header
  rw [headerItem, ByteOrder.native_little, h0, h2, h16, h32]

theorem nvmeHeaderItem_nvmeHeader :
    nvmeHeaderItem s.nvmeHeader = .nvmeHeader s.nvmeVer s.sqs.length s.cqs.length := by
  obtain ⟨h0, h2, h4⟩ := s.field_nvmeHeader
  rw [nvmeHeaderItem, h0, h2, h4]

/-- Decoding round trip of the formatted rendering on a little-endian host. A buffer holding
the whole encoded state prints back its header fields, its two counts and every queue record in
order, with no warning; a shorter one prints a prefix of its submission queues and a prefix of
its completion queues. -/
theorem controllerStateText_toBytes (human : Bool) :
    (∀ len, s.toBytes.length ≤ len →
      controllerStateText .little human (bufferOf s.toBytes) len = s.report human) ∧
    ∀ len,
      (controllerStateText .little human (bufferOf s.toBytes) len).filterMap StateItem.sqData? <+:
        s.sqs ∧
      (controllerStateText .little human (bufferOf s.toBytes) len).filterMap StateItem.cqData? <+:
        s.cqs := by
  refine ⟨fun len hlen => ?_, fun len => ?_⟩
  · rw [length_toBytes] at hlen
    rw [controllerStateText_eq, s.section43Tree_toBytes (by omega),
      min_eq_left (show s.sqs.length ≤ (len - 56) / 24 by omega),
      min_eq_left (show s.cqs.length ≤ (len - 56 - 24 * s.sqs.length) / 24 by omega),
      List.take_of_length_le (by rw [List.length_map]), List.take_of_length_le (by rw [List.length_map])]
    simp only [renderTree, lt_irrefl, decide_False, Bool.false_eq_true, if_false, List.nil_append,
      s.headerItem_header, s.nvmeHeaderItem_nvmeHeader, report]
    rw [← mapIdx_map (sqItem human) NvmeIoSubmissionQueueData.ofBytes, s.map_ofBytes_sqs,
      ← mapIdx_map (cqItem human) NvmeIoCompletionQueueData.ofBytes, s.map_ofBytes_cqs,
      List.append_nil]
  · rw [controllerStateText_eq, sqData?_renderTree, cqData?_renderTree]
    by_cases h56 : len < 56
    · simp only [slices_section43Tree_of_lt _ _ h56, List.map_nil, List.nil_prefix, and_self]
    · rw [s.section43Tree_toBytes (by omega)]
      simp only [ControllerStateTree.sqSlices, ControllerStateTree.cqSlices, List.map_take,
        s.map_ofBytes_sqs, s.map_ofBytes_cqs]
      constructor <;> exact List.take_prefix _ _

/-- Version 1 with one submission queue and one completion queue of 64 entries, both with
identifier 1. -/
def oneEach : ControllerState where
  ver := 1
  csattr := 1
  nvmecss := 104
  vss := 0
  nvmeVer := 1
  sqs := [⟨0x1000, 63, 1, 1, 1, 5, 9⟩]
  cqs := [⟨0x2000, 63, 1, 9, 5, 3⟩]
  ver_lt := by decide
  csattr_lt := by decide
  nvmecss_lt := by decide
  vss_lt := by decide
  nvmeVer_lt := by decide
  niosq_lt := by decide
  niocq_lt := by decide
  sqs_fit := by simp only [List.mem_singleton, forall_eq, NvmeIoSubmissionQueueData.Fits]; decide
  cqs_fit := by simp only [List.mem_singleton, forall_eq, NvmeIoCompletionQueueData.Fits]; decide

theorem controllerStateText_toBytes_oneEach :
    controllerStateText .little true (bufferOf oneEach.toBytes) 104 = oneEach.report true ∧
    (controllerStateText .little true (bufferOf oneEach.toBytes) 80).filterMap
        StateItem.sqData? <+: oneEach.sqs ∧
    (controllerStateText .little true (bufferOf oneEach.toBytes) 80).filterMap
        StateItem.cqData? <+: oneEach.cqs :=
  have h := controllerStateText_toBytes oneEach true
  ⟨h.1 104 (by rw [length_toBytes]; rfl), h.2 80⟩

theorem bytesAt_header_slice {a w : Nat} (h : a + w ≤ 48) :
    bytesAt (bufferOf s.toBytes) a w = (s.header.drop a).take w := by
  rw [← s.bytesAt_header, slice_bytesAt h, Nat.zero_add]

theorem loadLe_nvmeHeader {a w : Nat} (h : a + w ≤ 8) :
    ByteOrder.little.loadLe (bufferOf s.toBytes) (48 + a) w = field s.nvmeHeader a w := by
  rw [ByteOrder.loadLe_eq, ← slice_bytesAt h, s.bytesAt_nvmeHeader]
  rfl

theorem map_range_sq {β : Type} (f : NvmeIoSubmissionQueueData → β) :
    (List.range s.sqs.length).map (fun i =>
      f (NvmeIoSubmissionQueueData.load .little (bufferOf s.toBytes) (56 + 24 * i))) =
      s.sqs.map f := by
  calc _ = ((List.range s.sqs.length).map fun i => bytesAt (bufferOf s.toBytes) (56 + 24 * i) 24).map
          (f ∘ NvmeIoSubmissionQueueData.ofBytes) := by
        simp only [List.map_map, Function.comp_def, NvmeIoSubmissionQueueData.load_eq]
    _ = ((s.sqs.map NvmeIoSubmissionQueueData.toBytes).map NvmeIoSubmissionQueueData.ofBytes).map f := by
        rw [s.sq_slices le_rfl, List.take_of_length_le (by rw [List.length_map]), List.map_map,
          List.map_map, List.map_map]
    _ = s.sqs.map f := by rw [s.map_ofBytes_sqs]

/-- The JSON rendering of an encoded state on a little-endian host. It prints the header fields,
the counts and the submission queues back, but it reads completion queue `i` from record `i` of
the queue area, where the submission queues come first: its completion queue list is the first
`niocq` records of the queue area decoded as completion queues. It prints the state back when
the state has no submission queue or no completion queue. -/
theorem jsonControllerStateData_toBytes (len : Nat) :
    jsonControllerStateData .little (bufferOf s.toBytes) len =
      s.json ((s.records.take s.cqs.length).map NvmeIoCompletionQueueData.ofBytes) ∧
    (s.sqs = [] ∨ s.cqs = [] →
      jsonControllerStateData .little (bufferOf s.toBytes) len = s.json s.cqs) := by
  obtain ⟨f0, f2, f16, f32⟩ := s.field_header
  have h0 : ByteOrder.little.loadLe (bufferOf s.toBytes) 0 2 = s.ver := by
    rw [ByteOrder.loadLe_eq, s.bytesAt_header_slice (by decide), List.drop_zero, f0]
  have h2 : (bufferOf s.toBytes 2).toNat = s.csattr := by
    have h := s.bytesAt_header_slice (a := 2) (w := 1) (by decide)
    rw [bytesAt_one] at h
    rw [← f2, field, ← h, leValue_cons, leValue_nil, Nat.mul_zero, Nat.add_zero]
  have h16 : ByteOrder.little.loadLe (bufferOf s.toBytes) 16 16 = s.nvmecss := by
    rw [ByteOrder.loadLe_eq, s.bytesAt_header_slice (by decide)]
    exact f16
  have h32 : ByteOrder.little.loadLe (bufferOf s.toBytes) 32 16 = s.vss := by
    rw [ByteOrder.loadLe_eq, s.bytesAt_header_slice (by decide)]
    exact f32
  have h48 : ByteOrder.little.loadLe (bufferOf s.toBytes) 48 2 = s.nvmeVer :=
    (s.loadLe_nvmeHeader (a := 0) (by decide)).trans s.field_nvmeHeader.1
  have hcq : (List.range s.cqs.length).map (fun i => cqObject
      (NvmeIoCompletionQueueData.load .little (bufferOf s.toBytes) (56 + 24 * i))) =
      ((s.records.take s.cqs.length).map NvmeIoCompletionQueueData.ofBytes).map cqObject := by
    have h := s.bytesAt_records 0 s.cqs.length (by omega)
    simp only [Nat.zero_add, List.drop_zero] at h
    simp only [NvmeIoCompletionQueueData.load_eq, ← h, List.map_map, Function.comp_def]
  have hj : jsonControllerStateData .little (bufferOf s.toBytes) len =
      s.json ((s.records.take s.cqs.length).map NvmeIoCompletionQueueData.ofBytes) := by
    simp only [jsonControllerStateData, json, sizeofNvmeIoQueueData, h0, h2, h16, h32, h48,
      show ByteOrder.little.loadLe (bufferOf s.toBytes) 50 2 = s.sqs.length from s.load_counts.1,
      show ByteOrder.little.loadLe (bufferOf s.toBytes) 52 2 = s.cqs.length from s.load_counts.2,
      s.load_counts.1, s.load_counts.2, s.map_range_sq, hcq]
  refine ⟨hj, fun hs => ?_⟩
  rcases hs with hs | hs
  · rw [hj, records, hs, List.map_nil, List.nil_append,
      List.take_of_length_le (by rw [List.length_map]), s.map_ofBytes_cqs]
  · rw [hj, hs, List.length_nil, List.take_zero, List.map_nil]

end ControllerState

end Lm.StateData
