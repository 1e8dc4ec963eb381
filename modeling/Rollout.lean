import Rollout.Abi.Basic
import Rollout.Abi.Encode
import Rollout.Abi.Report
import Rollout.Abi.Signature
import Rollout.Address
import Rollout.AddressBook
import Rollout.Artifact.Basic
import Rollout.Artifact.Linking
import Rollout.Artifact.Parser
import Rollout.Artifact.Templates
import Rollout.Broadcast
import Rollout.Command.Arguments
import Rollout.Command.Deploy
import Rollout.Command.List
import Rollout.Command.Machine
import Rollout.Command.Option
import Rollout.Command.Program
import Rollout.Command.Suggestion
import Rollout.Configuration
import Rollout.Console.Printer
import Rollout.Console.Style
import Rollout.Contract
import Rollout.Deployer
import Rollout.Dotenv
import Rollout.Event
import Rollout.Failure
import Rollout.Files
import Rollout.Hash.Keccak
import Rollout.HexData
import Rollout.LightClient.Deployment
import Rollout.LightClient.State
import Rollout.Listeners
import Rollout.Main
import Rollout.Number.Basic
import Rollout.Number.Numeral
import Rollout.Number.Power
import Rollout.Number.Shortest
import Rollout.PrivateKey
import Rollout.Run
import Rollout.Script
import Rollout.Session
import Rollout.Signer
import Rollout.Text.Blank
import Rollout.Text.Hex
import Rollout.Text.Replace
import Rollout.Text.Units
import Rollout.Text.Uppercase
import Rollout.Url.Address
import Rollout.Url.Domain
import Rollout.Url.DomainTable
import Rollout.Url.Punycode
import Rollout.Url.Rpc
import Rollout.Value
import Rollout.Proofs.Creation
import Rollout.Proofs.Deployer
import Rollout.Proofs.Script.Passage
import Rollout.Proofs.AddressBook
import Rollout.Proofs.Script.AppendOnly
import Rollout.Proofs.Script.Announcement
import Rollout.Proofs.Artifact.Linking
import Rollout.Proofs.Abi.Digits
import Rollout.Proofs.LightClient.Image
import Rollout.Proofs.LightClient.Progress
import Rollout.Proofs.LightClient.Deployment
import Rollout.Proofs.Run.Order
import Rollout.Proofs.Run.Linkage
import Rollout.Proofs.Run.Resumption
import Rollout.Proofs.Script.Narration
import Rollout.Proofs.LightClient.Provenance
import Rollout.Proofs.Dotenv
import Rollout.Proofs.History
import Rollout.Proofs.Export
import Rollout.Proofs.Command.Delivery
import Rollout.Proofs.Command.Preservation
import Rollout.Proofs.Run.Rejection
import Rollout.Proofs.Command.Streams
import Rollout.Proofs.Configuration
import Rollout.Proofs.Predeployed
import Rollout.Proofs.Command.Preflight
import Rollout.Proofs.LetterCase.Run
import Rollout.Proofs.Artifact.Completion
import Rollout.Proofs.Overwriting
import Rollout.Proofs.Artifact.Bounds
import Rollout.Proofs.Artifact.Frame
import Rollout.Proofs.Artifact.Agreement
import Rollout.Proofs.Artifact.Commutation
import Rollout.Proofs.Artifact.Repetition
import Rollout.Proofs.Artifact.Refusal
import Rollout.Proofs.Artifact.Outside
import Rollout.Proofs.Artifact.Reported
import Rollout.Proofs.Recording
import Rollout.Proofs.Exchanges
import Rollout.Proofs.LightClient.Construction
import Rollout.Proofs.Command.Destination
import Rollout.Proofs.Verbosity
