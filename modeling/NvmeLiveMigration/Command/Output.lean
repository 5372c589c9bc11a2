import NvmeLiveMigration.Command.Migration

/-! Where Migration Receive sends the buffer the device filled. With an output file named it is
written there; otherwise `show_controller_state_data` gets it with the allocated length. The
handler rejects a non-zero offset unless the output is binary, so the decoder's own
"Cannot parse non-zero offset" error is never printed. -/

namespace Lm.Command
open Lm.StateData

theorem showControllerStateData_ne_error {host : ByteOrder} {mem : Nat → UInt8} {len : Nat}
    {offset : UInt32} {flags : PrintFlags} (h : flags.binary = true ∨ offset = 0)
    (text : String) : showControllerStateData host mem len offset flags ≠ .error text := by
  unfold showControllerStateData
  rcases h with h | h
  · simp [h]
  · split_ifs <;> simp_all

theorem migrationRecvOutput_events (io : Collaborators) (cfg : MigrationRecvConfig) :
    ∀ e ∈ (migrationRecvOutput io cfg).1, ∃ path, e = .fopen path "w" := by
  unfold migrationRecvOutput
  rcases cfg.output with _ | path
  · simp
  · dsimp only
    split_ifs <;> simp

theorem migrationRecvOutput_none {io : Collaborators} {cfg : MigrationRecvConfig}
    (h : (migrationRecvOutput io cfg).2 = none) : ∀ path ∈ cfg.output, path.length = 0 := by
  unfold migrationRecvOutput at h
  rcases hout : cfg.output with _ | path
  · simp
  · simp only [hout] at h
    split_ifs at h with hp
    simpa using hp

theorem migrationRecvShow_decoder {io : Collaborators} {cfg : MigrationRecvConfig}
    {flags : PrintFlags} {stream : Option Bool} {result : UInt32} {buf : Nat → UInt8} {len : Nat}
    {out : StateOutput}
    (h : Event.showControllerState len out ∈ (migrationRecvShow io cfg flags stream result buf).events) :
    stream = none ∧ len = ((cfg.numd + 1) <<< 2).toNat ∧
      out = showControllerStateData io.host buf len cfg.offset.toUInt32 flags := by
  unfold migrationRecvShow at h
  rcases stream with _ | _ | _ <;> dsimp only at h <;> split_ifs at h <;> simp at h <;> simp [h]

/-- Migration Receive hands its buffer to the decoder only when no output file is named and the
device returned 0 for the command it sent, and then with the allocated length `(numd + 1) << 2`.
The decoder never answers "Cannot parse non-zero offset" there. -/
theorem migrationRecv_decoder_call (io : Collaborators) (cfg : MigrationRecvConfig) :
    ∀ len out, Event.showControllerState len out ∈ (lmMigrationRecv io cfg).events →
      (∀ path ∈ cfg.output, path.length = 0) ∧
      (∃ cmd, (lmMigrationRecv io cfg).submitted = some cmd ∧ (io.submitAdminPassthru cmd).1 = 0) ∧
      len = ((cfg.numd + 1) <<< 2).toNat ∧ ∀ text, out ≠ .error text := by
  intro len out hmem
  rcases hv : io.validateOutputFormat cfg.outputFormat with ⟨err, flags⟩
  rcases ho : migrationRecvOutput io cfg with ⟨opened, stream⟩
  have hopen := migrationRecvOutput_events io cfg
  have hnone := @migrationRecvOutput_none io cfg
  have hsub := lmMigrationRecv_submitted io cfg
  rw [ho] at hopen hnone
  simp only [hv] at hsub
  have hnot : Event.showControllerState len out ∉ opened := fun h => by
    obtain ⟨path, hp⟩ := hopen _ h
    cases hp
  rcases lmMigrationRecv_cases io cfg hv ho with ⟨-, hr⟩ | ⟨-, -, hr⟩ | ⟨-, -, -, hr⟩ |
    ⟨h1, h2, h3, status, result, buf, hs, ⟨-, hr⟩ | ⟨-, -, hr⟩ | ⟨h5, hr⟩⟩ <;> rw [hr] at hmem
  all_goals first | simp [hnot] at hmem; done | skip
  simp only [Run.after_events, List.mem_append, hnot, List.mem_cons, List.mem_singleton,
    List.not_mem_nil, false_or, or_false] at hmem
  rcases hmem with (h | h) | hmem
  · cases h
  · cases h
  obtain ⟨rfl, hlen, rfl⟩ := migrationRecvShow_decoder hmem
  rw [if_neg (not_or.mpr ⟨h1, not_or.mpr ⟨h2, h3⟩⟩)] at hsub
  refine ⟨hnone rfl, ⟨_, hsub, by rw [hs, h5]⟩, hlen, showControllerStateData_ne_error ?_⟩
  rcases not_and_or.mp h2 with h | h
  · exact .inr (by rw [not_not.mp h]; rfl)
  · exact .inl (by split_ifs <;> exact not_not.mp h)

theorem migrationRecv_decoder_call_default :
    Event.showControllerState 4 (showControllerStateData .little (fun _ => 0) 4 0 .normal) ∈
        (lmMigrationRecv Collaborators.succeeding MigrationRecvConfig.default).events ∧
      (∀ path ∈ MigrationRecvConfig.default.output, path.length = 0) ∧
      (∃ cmd, (lmMigrationRecv Collaborators.succeeding MigrationRecvConfig.default).submitted =
        some cmd ∧ (Collaborators.succeeding.submitAdminPassthru cmd).1 = 0) ∧
      4 = ((MigrationRecvConfig.default.numd + 1) <<< 2).toNat ∧
      ∀ text, showControllerStateData .little (fun _ => 0) 4 0 .normal ≠ .error text :=
  have h : Event.showControllerState 4 (showControllerStateData .little (fun _ => 0) 4 0 .normal) ∈
      (lmMigrationRecv Collaborators.succeeding MigrationRecvConfig.default).events := by
    simp [lmMigrationRecv, migrationRecvShow, migrationRecvOutput, Collaborators.succeeding,
      MigrationRecvConfig.default]
    constructor <;> rfl
  ⟨h, migrationRecv_decoder_call _ _ _ _ h⟩

theorem cdw0_mem_migrationRecvShow {io : Collaborators} {cfg : MigrationRecvConfig}
    {flags : PrintFlags} {stream : Option Bool} {result : UInt32} {buf : Nat → UInt8} :
    (∃ args, Event.print "CDW0: 0x%x: Controller %sSuspended\n" args ∈
      (migrationRecvShow io cfg flags stream result buf).events) ↔ flags = PrintFlags.normal := by
  unfold migrationRecvShow
  rcases stream with _ | _ | _ <;> dsimp only <;> split_ifs <;> simp [*]

/-- Migration Receive prints its `CDW0: ... Controller Suspended` line exactly when the device
completed the command it sent with status 0, the validated output format is the normal one and
`--human-readable` is not given: the `VERBOSE` bit that option sets makes `flags == NORMAL`
false, so the line is never printed in human-readable mode. -/
theorem migrationRecv_cdw0_iff (io : Collaborators) (cfg : MigrationRecvConfig) :
    (∃ args, Event.print "CDW0: 0x%x: Controller %sSuspended\n" args ∈
      (lmMigrationRecv io cfg).events) ↔
      (∃ cmd, (lmMigrationRecv io cfg).submitted = some cmd ∧ (io.submitAdminPassthru cmd).1 = 0) ∧
        (io.validateOutputFormat cfg.outputFormat).2 = PrintFlags.normal ∧
        cfg.humanReadable = false := by
  rw [lmMigrationRecv_submitted]
  rcases hv : io.validateOutputFormat cfg.outputFormat with ⟨err, flags⟩
  rcases ho : migrationRecvOutput io cfg with ⟨opened, stream⟩
  have hopen := migrationRecvOutput_events io cfg
  rw [ho] at hopen
  have hprint : ∀ args, Event.print "CDW0: 0x%x: Controller %sSuspended\n" args ∉ opened :=
    fun args h => by
      obtain ⟨path, hp⟩ := hopen _ h
      cases hp
  rcases lmMigrationRecv_cases io cfg hv ho with ⟨h1, hr⟩ | ⟨h1, h2, hr⟩ | ⟨h1, h2, h3, hr⟩ |
    ⟨h1, h2, h3, status, result, buf, hs, ⟨hneg, hr⟩ | ⟨-, hne, hr⟩ | ⟨h0, hr⟩⟩ <;> rw [hr]
  · simp [h1]
  · simp [h2]
  · simp [h3, hprint, -Word.toNat_shiftLeft32]
  all_goals rw [if_neg (not_or.2 ⟨h1, not_or.2 ⟨h2, h3⟩⟩)]
  · simp [hs, hneg.ne, hprint, -Word.toNat_shiftLeft32]
  · simp [hs, hne, hprint, -Word.toNat_shiftLeft32]
  · simp only [Run.after_events, Option.some.injEq, exists_eq_left', hs, h0, true_and,
      List.mem_append, List.mem_cons, List.mem_singleton, hprint, reduceCtorEq, List.not_mem_nil,
      or_self, false_or, cdw0_mem_migrationRecvShow]
    cases cfg.humanReadable <;> simp [PrintFlags.normal]

end Lm.Command
