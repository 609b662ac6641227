import RegionalDial.Main
import RegionalDial.Proofs.Alphabets
import RegionalDial.Proofs.Building
import RegionalDial.Proofs.Bundles
import RegionalDial.Proofs.ClientFlags
import RegionalDial.Proofs.CommandLines
import RegionalDial.Proofs.Commands
import RegionalDial.Proofs.Configuring
import RegionalDial.Proofs.Connecting
import RegionalDial.Proofs.Credentials
import RegionalDial.Proofs.Exchange
import RegionalDial.Proofs.Fallback
import RegionalDial.Proofs.Faults
import RegionalDial.Proofs.Flags
import RegionalDial.Proofs.Headers
import RegionalDial.Proofs.Hosts
import RegionalDial.Proofs.Identity
import RegionalDial.Proofs.Json
import RegionalDial.Proofs.Plaintext
import RegionalDial.Proofs.Redaction
import RegionalDial.Proofs.Reports
import RegionalDial.Proofs.Resolving
import RegionalDial.Proofs.Sections
import RegionalDial.Proofs.Spelling
import RegionalDial.Proofs.Targets
import RegionalDial.Proofs.TokenFiles
import RegionalDial.Service.Http
import RegionalDial.Service.Network
import RegionalDial.Proofs.Assignments
import RegionalDial.Proofs.Quoting
import RegionalDial.Proofs.Tables
import RegionalDial.Proofs.Causes
