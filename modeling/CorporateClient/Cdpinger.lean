-- The watch of a disc drive (cdpinger.c). Discs are mounted and unmounted in turn as long as no
-- status query fails and no mounted disc is found not ready.

namespace cdpinger

inductive CdpMountType
  | CDP_CDROM_MOUNT
  | CDP_CDROM_UMOUNT
  deriving DecidableEq

/-- What a poll finds: no device, a failed query, or the status of the drive. -/
inductive Poll
  | missing
  | failed
  | CDS_NO_INFO
  | CDS_NO_DISC
  | CDS_TRAY_OPEN
  | CDS_DRIVE_NOT_READY
  | CDS_DISC_OK
  deriving DecidableEq

inductive Command
  | remove_disc
  | remove_fstab_entry
  | add_fstab_entry
  deriving DecidableEq

/-- One poll: the new `last`, the commands, and the result, which for a command is the one of
`g_spawn_command_line_sync`. -/
def check_cd_status (spawn : Command → Bool) (last : CdpMountType) :
    Poll → CdpMountType × List Command × Bool
  | .missing => (last, if last = .CDP_CDROM_MOUNT then [.remove_disc] else [], false)
  | .failed => (last, [.remove_disc], spawn .remove_disc)
  | .CDS_NO_DISC | .CDS_TRAY_OPEN =>
    if last = .CDP_CDROM_MOUNT then
      (.CDP_CDROM_UMOUNT, [.remove_fstab_entry], spawn .remove_fstab_entry)
    else (last, [], true)
  | .CDS_DISC_OK =>
    if last = .CDP_CDROM_UMOUNT then
      (.CDP_CDROM_MOUNT, [.add_fstab_entry], spawn .add_fstab_entry)
    else (last, [], true)
  | .CDS_NO_INFO | .CDS_DRIVE_NOT_READY => (last, [], true)

/-- The polls up to the one that returns false, each with its commands and its result. -/
def watch (spawn : Command → Bool) : CdpMountType → List Poll → List (Poll × List Command × Bool)
  | _, [] => []
  | last, poll :: polls =>
    let (last, commands, again) := check_cd_status spawn last poll
    (poll, commands, again) :: if again then watch spawn last polls else []

/-! ## Mounting in turn -/

/-- Adds and removes in turn, and if a disc is mounted behind them. -/
def InTurn : Bool → List Command → Bool → Prop
  | mounted, [], after => mounted = after
  | mounted, command :: commands, after =>
    decide (command = .add_fstab_entry) ≠ mounted ∧ InTurn (!mounted) commands after

/-- The commands alternate, no disc stays mounted that goes away, and the watch ends without a
device or a status. -/
def Orderly : Bool → List (Poll × List Command × Bool) → Prop
  | _, [] => True
  | mounted, (poll, commands, again) :: rest =>
    ∃ after, InTurn mounted commands after ∧
      (poll ∉ [.CDS_DISC_OK, .CDS_NO_INFO] → after = false) ∧
      (poll = .missing ∨ poll = .failed → again = false) ∧ Orderly after rest

/-- No query fails, and no disc is found not ready when it is mounted. -/
def Steady : Bool → List Poll → Prop
  | _, [] => True
  | mounted, poll :: polls =>
    poll ≠ .failed ∧ (poll = .CDS_DRIVE_NOT_READY → mounted = false) ∧
      (poll ≠ .missing → Steady
        (poll = .CDS_DISC_OK ∨ mounted ∧ poll ≠ .CDS_NO_DISC ∧ poll ≠ .CDS_TRAY_OPEN) polls)

theorem watch_orderly_iff (last : CdpMountType) (polls : List Poll) :
    Orderly (last = .CDP_CDROM_MOUNT) (watch (fun _ => true) last polls) ↔
      Steady (last = .CDP_CDROM_MOUNT) polls := by
  induction polls generalizing last with
  | nil => rfl
  | cons poll polls ih =>
    have hmounted := ih .CDP_CDROM_MOUNT
    have hunmounted := ih .CDP_CDROM_UMOUNT
    cases poll <;> cases last <;>
      simp_all [watch, check_cd_status, Orderly, InTurn, Steady]

theorem commands_alternate_iff (polls : List Poll) :
    Orderly false (watch (fun _ => true) .CDP_CDROM_UMOUNT polls) ↔ Steady false polls :=
  watch_orderly_iff .CDP_CDROM_UMOUNT polls

/-- A failed query does not end the watch, and its disc is removed once more. -/
theorem removed_twice : ¬ Orderly false
    (watch (fun _ => true) .CDP_CDROM_UMOUNT [.CDS_DISC_OK, .failed, .CDS_NO_DISC]) := by
  intro h
  exact ((watch_orderly_iff .CDP_CDROM_UMOUNT _).mp h).2.2 (by decide) |>.1 rfl

end cdpinger
