import HostScript.Host.Rehearsal
import HostScript.Json.Printer
import HostScript.Main
import HostScript.Proofs.Apart
import HostScript.Proofs.BlankVariables
import HostScript.Proofs.History
import HostScript.Proofs.Lines
import HostScript.Proofs.Naming
import HostScript.Proofs.Overrides
import HostScript.Proofs.Presentation
import HostScript.Proofs.Recognition
import HostScript.Proofs.Removal
import HostScript.Proofs.Replay
import HostScript.Proofs.Rotation
import HostScript.Proofs.Rounds
import HostScript.Proofs.Stray
