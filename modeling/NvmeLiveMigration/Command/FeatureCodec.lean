import NvmeLiveMigration.Command.Cdq

/-! The CDQ feature payload, `struct controller_data_queue_fid_data` (lines 895-899): the head
pointer and the tail pointer trigger as little-endian `__u32`s, then 504 reserved bytes. A
device that keeps what `lm_set_cdq` sent in CDW12 and CDW13 and returns it in this record has
`lm_get_cdq` show the same head pointer and trigger, on either host. -/

namespace Lm.Command
open Lm.StateData Lm.Word

/-- The feature record holding head pointer `hp` and trigger `tpt` in wire order, reserved bytes
zero. -/
def cdqFeaturePayload (hp tpt : UInt32) : Nat → UInt8 :=
  fun i => (leBytes 4 hp.toNat ++ leBytes 4 tpt.toNat).getD i 0

theorem loadLe_cdqFeaturePayload (host : ByteOrder) (hp tpt : UInt32) :
    host.loadLe (cdqFeaturePayload hp tpt) 0 4 = hp.toNat ∧
      host.loadLe (cdqFeaturePayload hp tpt) 4 4 = tpt.toNat := by
  have h4 : ∀ x, (leBytes 4 x).length = 4 := fun _ => rfl
  have hpay : ∀ {off n}, off + n ≤ 8 → bytesAt (cdqFeaturePayload hp tpt) off n =
      ((leBytes 4 hp.toNat ++ leBytes 4 tpt.toNat).drop off).take n := fun h =>
    bytesAt_getD _ (by rw [List.length_append, h4, h4]; exact h)
  simp only [ByteOrder.loadLe_eq, hpay (by decide : 0 + 4 ≤ 8), hpay (by decide : 4 + 4 ≤ 8),
    List.drop_zero, List.take_left' (h4 _), List.drop_left' (h4 _),
    List.take_of_length_le (h4 _).le, leValue_leBytes, Nat.reducePow,
    Nat.mod_eq_of_lt (u32_lt hp), Nat.mod_eq_of_lt (u32_lt tpt), and_self]

/-- When the device answers `lm_get_cdq` with the record holding the CDW12 and CDW13 that
`lm_set_cdq` sent, the handler shows the head pointer and the trigger's 32 bits, as text or as
JSON, on either host; those bits read back as a `__s32` are the trigger that was set. -/
theorem cdqFeature_round_trip (io : Collaborators) (set : SetCdqConfig) (get : GetCdqConfig)
    (flags : PrintFlags)
    (hdev : io.getFeatures (getCdqArgs get) =
      (0, cdqFeaturePayload (setCdqArgs set).cdw12 (setCdqArgs set).cdw13))
    (hfmt : io.validateOutputFormat get.outputFormat = (0, flags))
    (hraw : flags.json = true ∨ flags.binary = false) :
    (lmGetCdq io get).events =
      [.getFeatures (getCdqArgs get), .showControllerDataQueue (if flags.json then
        .json (.object [("head_pointer", .uint set.hp.toNat),
          ("tail_pointer_trigger", .uint set.tpt.toUInt32.toNat)])
        else .text set.hp.toNat set.tpt.toUInt32.toNat)] ∧
      signed32 set.tpt.toUInt32 = set.tpt.val := by
  obtain ⟨hhp, htpt⟩ := loadLe_cdqFeaturePayload io.host (setCdqArgs set).cdw12 (setCdqArgs set).cdw13
  refine ⟨?_, signed32_toUInt32 set.tpt⟩
  simp only [lmGetCdq, hfmt, hdev, lt_irrefl, if_false, reportStatus, if_true,
    lmShowControllerDataQueue, jsonLmControllerDataQueue, hhp, htpt]
  rcases hraw with h | h <;> simp [h, setCdqArgs]

/-- A device that keeps the head pointer and trigger of one Set Features call and returns them
in its feature record. -/
def Collaborators.storingFeature (set : SetCdqConfig) : Collaborators :=
  { Collaborators.succeeding with
    getFeatures := fun _ => (0, cdqFeaturePayload (setCdqArgs set).cdw12 (setCdqArgs set).cdw13) }

/-- Head pointer 5 with no trigger (`-1`). -/
def setHeadNoTrigger : SetCdqConfig := ⟨0, 5, ⟨-1, by decide, by decide⟩⟩

theorem cdqFeature_round_trip_noTrigger :
    (Collaborators.storingFeature setHeadNoTrigger).getFeatures (getCdqArgs ⟨0, "normal"⟩) =
        (0, cdqFeaturePayload (setCdqArgs setHeadNoTrigger).cdw12
          (setCdqArgs setHeadNoTrigger).cdw13) ∧
      (Collaborators.storingFeature setHeadNoTrigger).validateOutputFormat "normal" =
        (0, PrintFlags.normal) ∧
      (PrintFlags.normal.json = true ∨ PrintFlags.normal.binary = false) ∧
      ((lmGetCdq (Collaborators.storingFeature setHeadNoTrigger) ⟨0, "normal"⟩).events =
        [.getFeatures (getCdqArgs ⟨0, "normal"⟩),
          .showControllerDataQueue (.text 5 0xFFFFFFFF)] ∧
        signed32 setHeadNoTrigger.tpt.toUInt32 = -1) :=
  ⟨rfl, rfl, .inr rfl,
    cdqFeature_round_trip (Collaborators.storingFeature setHeadNoTrigger) setHeadNoTrigger
      ⟨0, "normal"⟩ PrintFlags.normal rfl rfl (.inr rfl)⟩

end Lm.Command
