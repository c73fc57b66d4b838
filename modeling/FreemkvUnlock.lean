import FreemkvUnlock.Css.CryptKey
import FreemkvUnlock.Aacs.DeadBus
import FreemkvUnlock.Interaction.Halting
import FreemkvUnlock.Agid
import FreemkvUnlock.DeadBus
import FreemkvUnlock.Renesas.Soundness
import FreemkvUnlock.Renesas.Ordering
import FreemkvUnlock.Freemkv.Unlock
import FreemkvUnlock.Vid
import FreemkvUnlock.Protocol
import FreemkvUnlock.Renesas.Hook
import FreemkvUnlock.Aacs.Soundness
import FreemkvUnlock.Aacs.HonestDrive
import FreemkvUnlock.Aacs.Completeness
import FreemkvUnlock.Interaction.Termination
import FreemkvUnlock.Aacs.HostSignature
import FreemkvUnlock.Aacs.Transcript
import FreemkvUnlock.Aacs.Ledger
import FreemkvUnlock.Interaction.Bracket
import FreemkvUnlock.Interaction.Trace
import FreemkvUnlock.Aacs.Handshake
import FreemkvUnlock.Aacs.Commands
import FreemkvUnlock.Aacs.DomainParameters
import FreemkvUnlock.Aacs.SignVerify
import FreemkvUnlock.Aacs.Ecdsa
import FreemkvUnlock.Ecdsa.Group
import FreemkvUnlock.Scsi
import FreemkvUnlock.Bytes.BigEndian
import FreemkvUnlock.Interaction.Prog
import FreemkvUnlock.Aacs.GroupLaw
import FreemkvUnlock.Interaction.History
import FreemkvUnlock.Renesas.Access
import FreemkvUnlock.Renesas.Plan
import FreemkvUnlock.Css.Session
import FreemkvUnlock.Css.Ledger
import FreemkvUnlock.Css.DeadBus
import FreemkvUnlock.Firmware
import FreemkvUnlock.Aacs.Unlocker
import FreemkvUnlock.Interaction.Stateful
import FreemkvUnlock.Ld.Profile
import FreemkvUnlock.Ld.Mt1959
import FreemkvUnlock.Ld.Readiness
import FreemkvUnlock.Ld.Upload
import FreemkvUnlock.Ld.Unlocker
import FreemkvUnlock.Ld.Calls
import FreemkvUnlock.Ld.Confirmation
import FreemkvUnlock.Ld.Faults
import FreemkvUnlock.Ld.Calibration
import FreemkvUnlock.Interaction.Loops
import FreemkvUnlock.Ld.Termination
import FreemkvUnlock.Ld.Discipline
import FreemkvUnlock.Interaction.Blame
import FreemkvUnlock.Ld.Causes
import FreemkvUnlock.OnlyDeadBus
import FreemkvUnlock.Interaction.Relational
import FreemkvUnlock.Delivery
import FreemkvUnlock.Aacs.Delivery
import FreemkvUnlock.Css.Delivery
import FreemkvUnlock.Aacs.Attempts
import FreemkvUnlock.Arming
import FreemkvUnlock.Aacs.ArmRoute
import FreemkvUnlock.Ld.FailedInit
import FreemkvUnlock.Freemkv.Outcome
import FreemkvUnlock.CriticalSpans
import FreemkvUnlock.Renesas.Assemble
import FreemkvUnlock.Renesas.Payload
import FreemkvUnlock.Renesas.Allocation
import FreemkvUnlock.Renesas.Granted
import FreemkvUnlock.Claims
import FreemkvUnlock.Version
import FreemkvUnlock.Aacs.Checked
import FreemkvUnlock.Css.KeyMap
import FreemkvUnlock.Css.HonestDrive
import FreemkvUnlock.Interaction.Iteration
import FreemkvUnlock.Ld.ReadinessRule
import FreemkvUnlock.Ld.PollBound
import FreemkvUnlock.Ld.Acceptance
import FreemkvUnlock.Graph.Cut
import FreemkvUnlock.Renesas.ReturnPaths
import FreemkvUnlock.Renesas.Dominance
import FreemkvUnlock.ReportedVid
import FreemkvUnlock.Aacs.Cmac
import FreemkvUnlock.Bytes.Chunks
import FreemkvUnlock.Renesas.Image
import FreemkvUnlock.Freemkv.Delivery
import FreemkvUnlock.Ld.Delivery
import FreemkvUnlock.Noninterference
import FreemkvUnlock.Renesas.Rollback
import FreemkvUnlock.Renesas.Survey
import FreemkvUnlock.Renesas.Resident
import FreemkvUnlock.Renesas.VidHook
import FreemkvUnlock.Renesas.ActivationHook
import FreemkvUnlock.Renesas.Activations
