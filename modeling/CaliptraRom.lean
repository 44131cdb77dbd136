import CaliptraRom.Error
import CaliptraRom.Image.Types
import CaliptraRom.Image.Env
import CaliptraRom.Image.Verifier
import CaliptraRom.Rom.State
import CaliptraRom.Rom.FwProcessor
import CaliptraRom.Rom.UpdateReset
import CaliptraRom.Rom.FmcAlias
import CaliptraRom.Proofs.Basic
import CaliptraRom.Proofs.Verifier.Phases
import CaliptraRom.Proofs.Verifier.Soundness
import CaliptraRom.Proofs.Verifier.UpdateReset
import CaliptraRom.Proofs.Verifier.Completeness
import CaliptraRom.Proofs.Verifier.Accepted
import CaliptraRom.Proofs.Verifier.Fuses
import CaliptraRom.Proofs.Rom.Basic
import CaliptraRom.Proofs.Rom.Measurement
import CaliptraRom.Proofs.Rom.UpdateReset
import CaliptraRom.Proofs.Rom.ColdReset
import CaliptraRom.Proofs.Rom.ErrorOrder
import CaliptraRom.Proofs.Rom.Load
import CaliptraRom.Proofs.Rom.Boot
import CaliptraRom.Proofs.Rom.Mailbox
import CaliptraRom.Proofs.Rom.FmcAlias
