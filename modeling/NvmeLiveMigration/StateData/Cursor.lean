import NvmeLiveMigration.StateData.Tree

/-! The decoder of `show_controller_state_data` as a state machine: a cursor into the buffer and
the length remaining after it, threaded through the two headers and then through the queue
records one step at a time, as the function threads `data` and `len` (lines 620-708). A run of
steps takes `min n (rem / 24)` consecutive records, and the whole machine decodes exactly the
tree `section43Tree` that the formatted rendering prints. -/

namespace Lm.StateData

/-- A position in the buffer and the length remaining after it. -/
structure Cursor where
  pos : Nat
  rem : Nat
  deriving DecidableEq, Repr

/-- One step: take `w` bytes at the cursor when that many remain. -/
def Cursor.take? (mem : Nat → UInt8) (w : Nat) (c : Cursor) : Option (List UInt8 × Cursor) :=
  if w ≤ c.rem then some (bytesAt mem c.pos w, ⟨c.pos + w, c.rem - w⟩) else none

/-- Up to `n` records of `w` bytes, one step each, stopping at the first that does not fit. -/
def takeRecords (mem : Nat → UInt8) (w : Nat) : Nat → Cursor → List (List UInt8) × Cursor
  | 0, c => ([], c)
  | n + 1, c =>
    match c.take? mem w with
    | some (r, c') => ((takeRecords mem w n c').1.cons r, (takeRecords mem w n c').2)
    | none => ([], c)

/-- The machine run from the cursor at 0 with `len` remaining: the outer header, the NVMe
controller state header with its two counts, then the submission and the completion queue
records. -/
def decodeByCursor (host : ByteOrder) (mem : Nat → UInt8) (len : Nat) : ControllerStateTree :=
  match (Cursor.mk 0 len).take? mem 48 with
  | none => .headerTruncated
  | some (hdr, c) =>
    match c.take? mem 8 with
    | none => .headerOnly hdr (decide (c.rem ≠ 0))
    | some (nh, c) =>
      let niosq := host.native ((nh.drop 2).take 2)
      let niocq := host.native ((nh.drop 4).take 2)
      let sq := takeRecords mem 24 niosq c
      let cq := takeRecords mem 24 niocq sq.2
      .full hdr ⟨nh, sq.1, decide (sq.1.length < niosq), cq.1, decide (cq.1.length < niocq)⟩

section Machine
variable (mem : Nat → UInt8) {w : Nat}

theorem take?_of_le {c : Cursor} (h : w ≤ c.rem) :
    c.take? mem w = some (bytesAt mem c.pos w, ⟨c.pos + w, c.rem - w⟩) := if_pos h

theorem take?_of_lt {c : Cursor} (h : c.rem < w) : c.take? mem w = none :=
  if_neg (Nat.not_le.mpr h)

theorem takeRecords_eq (hw : 0 < w) (n : Nat) (c : Cursor) :
    takeRecords mem w n c =
      ((List.range (min n (c.rem / w))).map fun i => bytesAt mem (c.pos + w * i) w,
        ⟨c.pos + w * min n (c.rem / w), c.rem - w * min n (c.rem / w)⟩) := by
  induction n generalizing c with
  | zero => simp [takeRecords]
  | succ n ih =>
    by_cases h : w ≤ c.rem
    · have hk : min (n + 1) (c.rem / w) = min n ((c.rem - w) / w) + 1 := by
        rw [Nat.div_eq_sub_div hw h]
        omega
      simp only [takeRecords, take?_of_le mem h, ih, hk, List.range_succ_eq_map, List.map_cons,
        List.map_map, Prod.mk.injEq, Cursor.mk.injEq]
      refine ⟨?_, by rw [Nat.mul_succ]; omega, by rw [Nat.mul_succ]; omega⟩
      rw [Nat.mul_zero, Nat.add_zero]
      exact congrArg _ (List.map_congr_left fun i _ =>
        congrArg (fun p => bytesAt mem p w) (by rw [Nat.succ_eq_add_one, Nat.mul_succ]; omega))
    · have hk : c.rem / w = 0 := Nat.div_eq_of_lt (Nat.lt_of_not_le h)
      simp [takeRecords, take?_of_lt mem (Nat.lt_of_not_le h), hk]

end Machine

theorem decodeByCursor_eq (host : ByteOrder) (mem : Nat → UInt8) (len : Nat) :
    decodeByCursor host mem len = section43Tree host mem len := by
  unfold decodeByCursor section43Tree
  by_cases h48 : len < 48
  · rw [take?_of_lt mem (c := ⟨0, len⟩) h48, if_pos h48]
  rw [take?_of_le mem (c := ⟨0, len⟩) (by dsimp only; omega), if_neg h48]
  dsimp only
  by_cases h56 : len < 56
  · rw [take?_of_lt mem (c := ⟨0 + 48, len - 48⟩) (by dsimp only; omega), if_pos h56]
    exact congrArg _ (decide_eq_decide.mpr (by omega))
  rw [take?_of_le mem (c := ⟨0 + 48, len - 48⟩) (by dsimp only; omega), if_neg h56]
  simp only [slice_bytesAt (by decide : 2 + 2 ≤ 8), slice_bytesAt (by decide : 4 + 2 ≤ 8),
    takeRecords_eq mem (by decide : 0 < 24), List.length_map, List.length_range, ByteOrder.load,
    Nat.reduceAdd, Nat.sub_sub, Nat.mul_add, Nat.add_assoc]

/-- The formatted rendering prints the tree the state machine decodes, and that tree is the
closed-form one. -/
theorem controllerStateText_runs_cursor_machine (host : ByteOrder) (human : Bool)
    (mem : Nat → UInt8) (len : Nat) :
    controllerStateText host human mem len = renderTree host human (decodeByCursor host mem len) ∧
      decodeByCursor host mem len = section43Tree host mem len := by
  rw [decodeByCursor_eq, controllerStateText_eq]
  exact ⟨rfl, rfl⟩

end Lm.StateData
