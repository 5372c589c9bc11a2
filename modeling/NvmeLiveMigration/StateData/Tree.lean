import NvmeLiveMigration.StateData.Show

/-! The controller state data decoded as a tree of byte slices, and the text rendering as its
printer. The formatted output of `show_controller_state_data` is the printing of the tree cut
from the first `len` bytes, and nothing at or past `len` is read. -/

namespace Lm.StateData

/-- The NVMe controller state after the two headers: its 8-byte header, the 24-byte queue
records, and whether each array was cut short by the buffer. -/
structure NvmeControllerState where
  hdr : List UInt8
  sqs : List (List UInt8)
  sqTruncated : Bool
  cqs : List (List UInt8)
  cqTruncated : Bool
  deriving DecidableEq, Repr

/-- Controller state data decoded from a buffer, as slices of it. -/
inductive ControllerStateTree
  | headerTruncated
  | headerOnly (hdr : List UInt8) (nvmeTruncated : Bool)
  | full (hdr : List UInt8) (nvme : NvmeControllerState)
  deriving DecidableEq, Repr

/-- The tree of the first `len` bytes: the header, the NVMe controller state header when 8 bytes
remain, then `s = min niosq ((len - 56) / 24)` submission queue records and
`c = min niocq ((len - 56 - 24 s) / 24)` completion queue records placed after them. The counts
are the ones the host loads from bytes 50 and 52. -/
def section43Tree (host : ByteOrder) (mem : Nat → UInt8) (len : Nat) : ControllerStateTree :=
  if len < 48 then .headerTruncated
  else if len < 56 then .headerOnly (bytesAt mem 0 48) (decide (len ≠ 48))
  else
    let niosq := host.load mem 50 2
    let niocq := host.load mem 52 2
    let s := min niosq ((len - 56) / 24)
    let c := min niocq ((len - 56 - 24 * s) / 24)
    .full (bytesAt mem 0 48)
      { hdr := bytesAt mem 48 8
        sqs := (List.range s).map fun i => bytesAt mem (56 + 24 * i) 24
        sqTruncated := decide (s < niosq)
        cqs := (List.range c).map fun i => bytesAt mem (56 + 24 * (s + i)) 24
        cqTruncated := decide (c < niocq) }

/-- The header block printed from a 48-byte header; the version is a plain host load. -/
def headerItem (host : ByteOrder) (human : Bool) (hdr : List UInt8) : StateItem :=
  .header (host.native (hdr.take 2)) (field hdr 2 1)
    (if human then some (field hdr 2 1 &&& 1) else none) (field hdr 16 16) (field hdr 32 16)

/-- The NVMe controller state header block printed from its 8 bytes. -/
def nvmeHeaderItem (nh : List UInt8) : StateItem :=
  .nvmeHeader (field nh 0 2) (field nh 2 2) (field nh 4 2)

def renderTree (host : ByteOrder) (human : Bool) : ControllerStateTree → List StateItem
  | .headerTruncated => [.warning "WARNING: Header truncated"]
  | .headerOnly hdr t => headerItem host human hdr ::
      if t then [.warning "WARNING: NVMe Controller State Data Structure truncated"] else []
  | .full hdr n => headerItem host human hdr :: nvmeHeaderItem n.hdr ::
      ((if n.sqTruncated then [.warning "WARNING: I/O Submission Queues truncated"] else []) ++
        n.sqs.mapIdx (fun i bs => sqItem human i (NvmeIoSubmissionQueueData.ofBytes bs)) ++
        (if n.cqTruncated then [.warning "WARNING: I/O Completion Queues truncated"] else []) ++
        n.cqs.mapIdx (fun i bs => cqItem human i (NvmeIoCompletionQueueData.ofBytes bs)))

section Refinement
variable (host : ByteOrder) (human : Bool) (mem : Nat → UInt8)

theorem map_range_eq_mapIdx {β γ : Type} (f : Nat → β → γ) (g : Nat → β) (n : Nat) :
    (List.range n).map (fun i => f i (g i)) = ((List.range n).map g).mapIdx f := by
  refine (List.mapIdx_eq_iff.mpr fun i => ?_).symm
  by_cases hi : i < n
  · simp only [List.getElem?_map, List.getElem?_range hi, Option.map_some']
  · have hn : (List.range n).length ≤ i := by rw [List.length_range]; omega
    simp only [List.getElem?_map, List.getElem?_eq_none hn, Option.map_none']

/-- The text path's clamp `if (len < n * 24) n = len / 24` is `min`. -/
theorem clamp_eq_min (n rem : Nat) :
    (if decide (rem < n * 24) = true then rem / 24 else n) = min n (rem / 24) := by
  simp only [decide_eq_true_eq]
  split <;> omega

theorem truncated_iff_min_lt (n rem : Nat) :
    decide (rem < n * 24) = decide (min n (rem / 24) < n) := by
  rw [decide_eq_decide]
  omega

theorem headerItem_bytesAt :
    headerItem host human (bytesAt mem 0 48) =
      .header (host.load mem 0 2) (mem 2).toNat (if human then some ((mem 2).toNat &&& 1) else none)
        (host.loadLe mem 16 16) (host.loadLe mem 32 16) := by
  simp only [headerItem, field, take_bytesAt (by decide : 2 ≤ 48),
    slice_bytesAt (by decide : 2 + 1 ≤ 48), slice_bytesAt (by decide : 16 + 16 ≤ 48),
    slice_bytesAt (by decide : 32 + 16 ≤ 48), ByteOrder.loadLe_eq, ByteOrder.load, bytesAt_one,
    leValue_cons, leValue_nil, Nat.mul_zero, Nat.add_zero, Nat.zero_add]

theorem nvmeHeaderItem_bytesAt :
    nvmeHeaderItem (bytesAt mem 48 8) =
      .nvmeHeader (host.loadLe mem 48 2) (host.leToCpu 2 (host.load mem 50 2))
        (host.leToCpu 2 (host.load mem 52 2)) := by
  have h := fun off => ByteOrder.leToCpu_native host (bytesAt mem off 2)
  simp only [length_bytesAt] at h
  simp only [nvmeHeaderItem, field, ByteOrder.load, h, ByteOrder.loadLe_eq,
    slice_bytesAt (by decide : 0 + 2 ≤ 8), slice_bytesAt (by decide : 2 + 2 ≤ 8),
    slice_bytesAt (by decide : 4 + 2 ≤ 8), Nat.add_zero]

theorem controllerStateText_eq (len : Nat) :
    controllerStateText host human mem len = renderTree host human (section43Tree host mem len) := by
  unfold controllerStateText section43Tree
  simp only [sizeofControllerStateDataHeader, sizeofNvmeControllerStateHeader,
    sizeofNvmeIoQueueData]
  by_cases h48 : len < 48
  · simp only [h48, show ¬48 ≤ len by omega, if_false, if_true, renderTree]
  by_cases h56 : len < 56
  · by_cases h0 : len = 48
    · subst h0
      simp [renderTree, headerItem_bytesAt]
    · simp only [h48, h56, show 48 ≤ len by omega, show len - 48 ≠ 0 by omega,
        show ¬8 ≤ len - 48 by omega, h0, if_true, if_false, renderTree, headerItem_bytesAt,
        decide_True, ne_eq, not_false_eq_true, List.singleton_append]
  · simp only [h48, h56, show 48 ≤ len by omega, show len - 48 ≠ 0 by omega,
      show 8 ≤ len - 48 by omega, if_true, if_false, renderTree, headerItem_bytesAt,
      nvmeHeaderItem_bytesAt host, List.singleton_append, Nat.sub_sub, Nat.reduceAdd, clamp_eq_min,
      NvmeIoSubmissionQueueData.load_eq, NvmeIoCompletionQueueData.load_eq]
    simp only [truncated_iff_min_lt]
    rw [map_range_eq_mapIdx (fun i bs => sqItem human i (NvmeIoSubmissionQueueData.ofBytes bs)),
      map_range_eq_mapIdx (fun i bs => cqItem human i (NvmeIoCompletionQueueData.ofBytes bs)),
      Nat.mul_comm (min _ _) 24]

end Refinement

section Frame
variable (host : ByteOrder) {mem mem' : Nat → UInt8} {len : Nat}

theorem load_congr_below (h : ∀ i < len, mem i = mem' i) {off w : Nat} (hw : off + w ≤ len) :
    host.load mem off w = host.load mem' off w := by
  unfold ByteOrder.load
  rw [bytesAt_congr_below h hw]

theorem section43Tree_congr (h : ∀ i < len, mem i = mem' i) :
    section43Tree host mem len = section43Tree host mem' len := by
  unfold section43Tree
  by_cases h48 : len < 48
  · simp only [h48, if_true]
  have hh := bytesAt_congr_below h (by omega : 0 + 48 ≤ len)
  by_cases h56 : len < 56
  · simp only [h48, h56, hh, if_true, if_false]
  simp only [h48, h56, hh, load_congr_below host h (by omega : 50 + 2 ≤ len),
    load_congr_below host h (by omega : 52 + 2 ≤ len), if_false]
  congr 2
  · exact bytesAt_congr_below h (by omega)
  · refine List.map_congr_left fun i hi => bytesAt_congr_below h ?_
    rw [List.mem_range] at hi
    omega
  · refine List.map_congr_left fun i hi => bytesAt_congr_below h ?_
    rw [List.mem_range] at hi
    omega

end Frame

/-- The formatted rendering (offset 0, neither binary nor JSON) reads no byte at or past `len`
and prints the tree of the first `len` bytes. -/
theorem showControllerStateData_decodes_section43 (host : ByteOrder) (human : Bool)
    (mem : Nat → UInt8) (len : Nat) :
    ReadsBelow len (fun m => showControllerStateData host m len 0 ⟨human, false, false⟩) ∧
    showControllerStateData host mem len 0 ⟨human, false, false⟩ =
      .text (renderTree host human (section43Tree host mem len)) := by
  have key : ∀ m, showControllerStateData host m len 0 ⟨human, false, false⟩ =
      .text (renderTree host human (section43Tree host m len)) := fun m => by
    simp [showControllerStateData, controllerStateText_eq]
  exact ⟨fun m m' h => by simp only [key, section43Tree_congr host h], key mem⟩

/-- 48 + 8 + 24 bytes declaring two submission queues and no completion queue: the count is
clamped to the one record that fits, after the truncation warning. -/
example : showControllerStateData .little (fun i => if i = 50 then 2 else 0) 80 0 PrintFlags.normal =
    .text [.header 0 0 none 0 0, .nvmeHeader 0 2 0,
      .warning "WARNING: I/O Submission Queues truncated",
      .submissionQueue 0 ⟨0, 0, 0, 0, 0, 0, 0⟩ none] := rfl

/-! ## A shorter buffer prints a prefix -/

def StateItem.sqData? : StateItem → Option NvmeIoSubmissionQueueData
  | .submissionQueue _ sq _ => some sq
  | _ => none

def StateItem.cqData? : StateItem → Option NvmeIoCompletionQueueData
  | .completionQueue _ cq _ => some cq
  | _ => none

def ControllerStateTree.sqSlices : ControllerStateTree → List (List UInt8)
  | .full _ n => n.sqs
  | _ => []

def ControllerStateTree.cqSlices : ControllerStateTree → List (List UInt8)
  | .full _ n => n.cqs
  | _ => []

section Truncation
variable (host : ByteOrder) (human : Bool) (mem : Nat → UInt8)

theorem filterMap_mapIdx_of_some {α β γ : Type} (f : Nat → α → β) (g : β → Option γ)
    (k : α → γ) (hf : ∀ i a, g (f i a) = some (k a)) (l : List α) :
    (l.mapIdx f).filterMap g = l.map k := by
  induction l generalizing f with
  | nil => rfl
  | cons a l ih =>
    rw [List.mapIdx_cons, List.filterMap_cons_some (hf 0 a), ih _ fun i => hf (i + 1), List.map_cons]

theorem filterMap_mapIdx_of_none {α β γ : Type} (f : Nat → α → β) (g : β → Option γ)
    (hf : ∀ i a, g (f i a) = none) (l : List α) : (l.mapIdx f).filterMap g = [] := by
  induction l generalizing f with
  | nil => rfl
  | cons a l ih => rw [List.mapIdx_cons, List.filterMap_cons_none (hf 0 a), ih _ fun i => hf (i + 1)]

theorem sqData?_renderTree (t : ControllerStateTree) :
    (renderTree host human t).filterMap StateItem.sqData? =
      t.sqSlices.map NvmeIoSubmissionQueueData.ofBytes := by
  rcases t with _ | ⟨hdr, _ | _⟩ | ⟨hdr, ⟨nh, sqs, _ | _, cqs, _ | _⟩⟩ <;>
    simp [renderTree, headerItem, nvmeHeaderItem, ControllerStateTree.sqSlices,
      List.filterMap_append, StateItem.sqData?,
      filterMap_mapIdx_of_some (fun i bs => sqItem human i (NvmeIoSubmissionQueueData.ofBytes bs))
        StateItem.sqData? NvmeIoSubmissionQueueData.ofBytes (fun _ _ => rfl),
      filterMap_mapIdx_of_none (fun i bs => cqItem human i (NvmeIoCompletionQueueData.ofBytes bs))
        StateItem.sqData? (fun _ _ => rfl)]

theorem cqData?_renderTree (t : ControllerStateTree) :
    (renderTree host human t).filterMap StateItem.cqData? =
      t.cqSlices.map NvmeIoCompletionQueueData.ofBytes := by
  rcases t with _ | ⟨hdr, _ | _⟩ | ⟨hdr, ⟨nh, sqs, _ | _, cqs, _ | _⟩⟩ <;>
    simp [renderTree, headerItem, nvmeHeaderItem, ControllerStateTree.cqSlices,
      List.filterMap_append, StateItem.cqData?,
      filterMap_mapIdx_of_none (fun i bs => sqItem human i (NvmeIoSubmissionQueueData.ofBytes bs))
        StateItem.cqData? (fun _ _ => rfl),
      filterMap_mapIdx_of_some (fun i bs => cqItem human i (NvmeIoCompletionQueueData.ofBytes bs))
        StateItem.cqData? NvmeIoCompletionQueueData.ofBytes (fun _ _ => rfl)]

theorem map_range_isPrefix {β : Type} (g : Nat → β) {k k' : Nat} (h : k ≤ k') :
    (List.range k).map g <+: (List.range k').map g := by
  rw [← Nat.min_eq_left h, ← List.take_range, List.map_take]
  exact List.take_prefix _ _

theorem min_div_eq_of_pos {n r : Nat} (h : 0 < (r - 24 * min n (r / 24)) / 24) :
    min n (r / 24) = n := by
  omega

theorem slices_section43Tree_of_lt {len : Nat} (h : len < 56) :
    (section43Tree host mem len).sqSlices = [] ∧ (section43Tree host mem len).cqSlices = [] := by
  unfold section43Tree
  split_ifs <;> exact ⟨rfl, rfl⟩

theorem section43Tree_isPrefix {len len' : Nat} (h : len ≤ len') :
    (section43Tree host mem len).sqSlices <+: (section43Tree host mem len').sqSlices ∧
    (section43Tree host mem len).cqSlices <+: (section43Tree host mem len').cqSlices ∧
    ((section43Tree host mem len).cqSlices ≠ [] →
      (section43Tree host mem len).sqSlices.length = host.load mem 50 2) := by
  by_cases h56 : len < 56
  · simp only [slices_section43Tree_of_lt host mem h56, List.nil_prefix, ne_eq,
      not_true_eq_false, IsEmpty.forall_iff, and_self]
  simp only [section43Tree, if_neg (show ¬len < 48 by omega), if_neg h56,
    if_neg (show ¬len' < 48 by omega), if_neg (show ¬len' < 56 by omega),
    ControllerStateTree.sqSlices, ControllerStateTree.cqSlices]
  generalize host.load mem 50 2 = n
  generalize host.load mem 52 2 = m
  have hr : len - 56 ≤ len' - 56 := Nat.sub_le_sub_right h 56
  have hk : min n ((len - 56) / 24) ≤ min n ((len' - 56) / 24) :=
    min_le_min_left _ (Nat.div_le_div_right hr)
  refine ⟨map_range_isPrefix _ hk, ?_, fun hc => ?_⟩
  · rcases Nat.eq_zero_or_pos (min m ((len - 56 - 24 * min n ((len - 56) / 24)) / 24)) with hc | hc
    · rw [hc, List.range_zero, List.map_nil]
      exact List.nil_prefix
    · have hn := min_div_eq_of_pos (lt_min_iff.mp hc).2
      have hn' : min n ((len' - 56) / 24) = n := le_antisymm (min_le_left _ _) (hn.symm.le.trans hk)
      rw [hn, hn']
      exact map_range_isPrefix _
        (min_le_min_left _ (Nat.div_le_div_right (Nat.sub_le_sub_right hr _)))
  · simp only [ne_eq, List.map_eq_nil_iff, List.range_eq_nil] at hc
    rw [List.length_map, List.length_range]
    exact min_div_eq_of_pos (lt_min_iff.mp (Nat.pos_of_ne_zero hc)).2

theorem head?_renderTree_section43Tree {len : Nat} (h : 48 ≤ len) :
    (renderTree host human (section43Tree host mem len)).head? =
      some (headerItem host human (bytesAt mem 0 48)) := by
  unfold section43Tree
  split_ifs <;> first | omega | rfl

/-- Reading more of the buffer never changes what a shorter read printed: the header block stays
the same, and the submission and completion queue records printed are prefixes of those printed
from a longer buffer. A completion queue record is printed only after all `niosq` submission
queue records the host loaded. -/
theorem controllerStateText_isPrefix_of_le {len len' : Nat} (h : len ≤ len') :
    (48 ≤ len → (controllerStateText host human mem len).head? =
      (controllerStateText host human mem len').head?) ∧
    (controllerStateText host human mem len).filterMap StateItem.sqData? <+:
      (controllerStateText host human mem len').filterMap StateItem.sqData? ∧
    (controllerStateText host human mem len).filterMap StateItem.cqData? <+:
      (controllerStateText host human mem len').filterMap StateItem.cqData? ∧
    ((controllerStateText host human mem len).filterMap StateItem.cqData? ≠ [] →
      ((controllerStateText host human mem len).filterMap StateItem.sqData?).length =
        host.load mem 50 2) := by
  simp only [controllerStateText_eq, sqData?_renderTree, cqData?_renderTree]
  obtain ⟨hs, hc, hlen⟩ := section43Tree_isPrefix host mem h
  refine ⟨fun h48 => ?_, hs.map _, hc.map _, fun hne => ?_⟩
  · rw [head?_renderTree_section43Tree host human mem h48,
      head?_renderTree_section43Tree host human mem (by omega)]
  · rw [List.length_map]
    exact hlen fun h0 => hne (by rw [h0, List.map_nil])

end Truncation

/-- Bytes `01 00` at offsets 0, 50 and 52 and zero elsewhere: version 1, one submission queue
and one completion queue, in the little-endian wire order. -/
def oneQueueEach : Nat → UInt8 := fun i => if i = 0 ∨ i = 50 ∨ i = 52 then 1 else 0

theorem controllerStateText_isPrefix_oneQueueEach :
    80 ≤ 104 ∧
    ((48 ≤ 80 → (controllerStateText .little false oneQueueEach 80).head? =
      (controllerStateText .little false oneQueueEach 104).head?) ∧
    (controllerStateText .little false oneQueueEach 80).filterMap StateItem.sqData? <+:
      (controllerStateText .little false oneQueueEach 104).filterMap StateItem.sqData? ∧
    (controllerStateText .little false oneQueueEach 80).filterMap StateItem.cqData? <+:
      (controllerStateText .little false oneQueueEach 104).filterMap StateItem.cqData? ∧
    ((controllerStateText .little false oneQueueEach 80).filterMap StateItem.cqData? ≠ [] →
      ((controllerStateText .little false oneQueueEach 80).filterMap StateItem.sqData?).length =
        ByteOrder.little.load oneQueueEach 50 2)) :=
  ⟨by decide, controllerStateText_isPrefix_of_le .little false oneQueueEach (by decide)⟩

/-! ## Human-readable mode -/

/-- A block with its verbose sub-field lines, computed from the values the block prints. -/
def StateItem.annotate : StateItem → StateItem
  | .header ver csattr _ nvmecss vss => .header ver csattr (some (csattr &&& 1)) nvmecss vss
  | .submissionQueue i sq _ => sqItem true i sq
  | .completionQueue i cq _ => cqItem true i cq
  | item => item

/-- The output with the verbose sub-field lines added to its text blocks. -/
def StateOutput.annotate : StateOutput → StateOutput
  | .text items => .text (items.map StateItem.annotate)
  | out => out

theorem map_mapIdx {α β γ : Type} (f : Nat → α → β) (g : β → γ) (l : List α) :
    (l.mapIdx f).map g = l.mapIdx fun i a => g (f i a) := by
  induction l generalizing f with
  | nil => rfl
  | cons a l ih => simp only [List.mapIdx_cons, List.map_cons, ih]

theorem renderTree_verbose (host : ByteOrder) (t : ControllerStateTree) :
    renderTree host true t = (renderTree host false t).map StateItem.annotate := by
  rcases t with _ | ⟨hdr, _ | _⟩ | ⟨hdr, ⟨nh, sqs, _ | _, cqs, _ | _⟩⟩ <;>
    simp only [renderTree, List.map_cons, List.map_nil, List.map_append, map_mapIdx,
      if_true, if_false, Bool.false_eq_true] <;> rfl

/-- `--human-readable` only adds lines. For every host, buffer, length, offset and set of flags,
`show_controller_state_data` with `VERBOSE` prints what it prints without it, with each header
and queue block followed by the bit fields of the values that block already shows: the same
blocks in the same order with the same values, and the raw, JSON and error outputs unchanged. -/
theorem showControllerStateData_verbose (host : ByteOrder) (mem : Nat → UInt8) (len : Nat)
    (offset : UInt32) (flags : PrintFlags) :
    showControllerStateData host mem len offset { flags with verbose := true } =
      (showControllerStateData host mem len offset { flags with verbose := false }).annotate := by
  unfold showControllerStateData
  split_ifs <;> simp only [StateOutput.annotate, controllerStateText_eq, renderTree_verbose]

end Lm.StateData
