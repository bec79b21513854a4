import HostFlash.Flash.Script
import HostFlash.Main
import HostFlash.Proofs.Calls.Bracketing
import HostFlash.Proofs.Emulator.Reset
import HostFlash.Proofs.Emulator.VersionPartition
import HostFlash.Proofs.Reading.Attempts
import HostFlash.Proofs.Registry.Consistency
import HostFlash.Proofs.Registry.Reprocessing
import HostFlash.Proofs.Version.Container
import HostFlash.Proofs.Version.Layout
import HostFlash.Proofs.Reading.Outcomes
import HostFlash.Proofs.Calls.Completion
import HostFlash.Proofs.Listing.Pieces
import HostFlash.Proofs.Calls.Reporting
import HostFlash.Proofs.Registry.Removal
import HostFlash.Proofs.Emulator.Commands
import HostFlash.Proofs.Backend.Opening
import HostFlash.Proofs.Reading.Agreement
import HostFlash.Proofs.Reading.Cleanup
import HostFlash.Proofs.Calls.Confirmation
import HostFlash.Proofs.Settings.Overriding
import HostFlash.Proofs.Registry.Edges
import HostFlash.Proofs.Process.Deadline
