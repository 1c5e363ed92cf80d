import RemoteHost.CommandLog
import RemoteHost.Crypto.Aes
import RemoteHost.Crypto.Blowfish
import RemoteHost.Crypto.ChaCha
import RemoteHost.Crypto.Ed25519
import RemoteHost.Crypto.MessageDigest
import RemoteHost.Crypto.Sha2
import RemoteHost.Crypto.Words
import RemoteHost.Decimal.Shortest
import RemoteHost.Diagnostic
import RemoteHost.Dialogue
import RemoteHost.Esxi.Command
import RemoteHost.Esxi.Inventory
import RemoteHost.Esxi.Request
import RemoteHost.Failure
import RemoteHost.Http
import RemoteHost.Idna.Direction
import RemoteHost.Idna.Domain
import RemoteHost.Idna.Joining
import RemoteHost.Idna.Mapping
import RemoteHost.Idna.Punycode
import RemoteHost.Json.Reader
import RemoteHost.Json.Record
import RemoteHost.Json.Value
import RemoteHost.Key.Certificate
import RemoteHost.Key.Pem
import RemoteHost.Key.PrivateKey
import RemoteHost.Key.PublicKey
import RemoteHost.Key.Rsa
import RemoteHost.Key.Wire
import RemoteHost.Logging
import RemoteHost.Ntlm.Challenge
import RemoteHost.Ntlm.Login
import RemoteHost.Ntlm.Message
import RemoteHost.PowerShell
import RemoteHost.Regex.Basic
import RemoteHost.Regex.CaseFold
import RemoteHost.Regex.Parser
import RemoteHost.Settings
import RemoteHost.Shell.Quote
import RemoteHost.Ssh.Call
import RemoteHost.Ssh.Config
import RemoteHost.Ssh.FileMode
import RemoteHost.Ssh.Material
import RemoteHost.Ssh.PollPolicy
import RemoteHost.Ssh.Reachability
import RemoteHost.Ssh.Session
import RemoteHost.Text.Ascii
import RemoteHost.Text.Base64
import RemoteHost.Text.Blank
import RemoteHost.Text.CaseRun
import RemoteHost.Text.Category
import RemoteHost.Text.CharSet
import RemoteHost.Text.Composed
import RemoteHost.Text.Quoted
import RemoteHost.Text.Script
import RemoteHost.Text.Search
import RemoteHost.Text.UpperCase
import RemoteHost.Text.Utf16
import RemoteHost.Text.Utf8
import RemoteHost.Url.Address
import RemoteHost.Url.Basic
import RemoteHost.Url.Host
import RemoteHost.Url.Percent
import RemoteHost.Uuid
import RemoteHost.Winrm.Authentication
import RemoteHost.Winrm.Client
import RemoteHost.Winrm.Config
import RemoteHost.Winrm.ConnectionFault
import RemoteHost.Winrm.Envelope
import RemoteHost.Winrm.FileCopy
import RemoteHost.Winrm.HttpCall
import RemoteHost.Winrm.Remote
import RemoteHost.Winrm.RemoteShell
import RemoteHost.Winrm.Response
import RemoteHost.Winrm.Service
import RemoteHost.Winrm.ShellCall
import RemoteHost.Winrm.SoapCall
import RemoteHost.Xml
import RemoteHost.Proofs.Dialogue
import RemoteHost.Proofs.Winrm.CopyShells
import RemoteHost.Proofs.Text.Utf8
import RemoteHost.Proofs.Text.Base64
import RemoteHost.Proofs.PowerShell
import RemoteHost.Proofs.Winrm.CopyPlan
import RemoteHost.Proofs.Text.Numeral
import RemoteHost.Proofs.Text.Blank
import RemoteHost.Proofs.Text.Case
import RemoteHost.Proofs.Text.Lines
import RemoteHost.Proofs.Winrm.CopyRemote
import RemoteHost.Proofs.Winrm.ClientShells
import RemoteHost.Proofs.Winrm.CommandRun
import RemoteHost.Proofs.Winrm.StreamTags
import RemoteHost.Proofs.Winrm.ReceiveResponse
import RemoteHost.Proofs.Winrm.OutputPieces
import RemoteHost.Proofs.Ntlm.ServerView
import RemoteHost.Proofs.Winrm.ReceiveFailure
import RemoteHost.Proofs.Winrm.RequestWords
import RemoteHost.Proofs.Winrm.FailureWords
import RemoteHost.Proofs.Ntlm.OfferedChallenge
import RemoteHost.Proofs.Winrm.AnsweredChallenge
import RemoteHost.Proofs.Winrm.ChallengeLines
import RemoteHost.Proofs.Ssh.WaitCourse
import RemoteHost.Proofs.Ssh.WaitTiming
import RemoteHost.Proofs.Ssh.WaitBudget
import RemoteHost.Proofs.Ssh.SessionRuns
import RemoteHost.Proofs.Ssh.RebootCourse
import RemoteHost.Proofs.Ssh.ConnectionLine
import RemoteHost.Proofs.Ssh.ConnectionUse
import RemoteHost.Proofs.Ssh.FileUpload
import RemoteHost.Proofs.Ssh.SessionLife
import RemoteHost.Proofs.Ssh.AnnouncedCommands
import RemoteHost.Proofs.Ssh.KeyMaterial
import RemoteHost.Proofs.Ssh.LoginPolicy
import RemoteHost.Proofs.Winrm.ShellHost
import RemoteHost.Proofs.Idna.PlainName
import RemoteHost.Proofs.Idna.KeptColon
import RemoteHost.Proofs.Winrm.FaultOfHost
import RemoteHost.Proofs.Winrm.InitFailure
import RemoteHost.Proofs.PowerShell.Literals
import RemoteHost.Proofs.Shell.SimpleCommand
import RemoteHost.Proofs.Shell.QuotedValues
import RemoteHost.Proofs.Esxi.ModuleParameters
import RemoteHost.Proofs.Esxi.Listing
import RemoteHost.Proofs.Winrm.CopyScripts
import RemoteHost.Proofs.Xml.Escaping
import RemoteHost.Proofs.Xml.Reader
import RemoteHost.Proofs.Xml.Layout
import RemoteHost.Proofs.Winrm.EnvelopeLayout
import RemoteHost.Proofs.Winrm.EnvelopeValues
import RemoteHost.Proofs.Winrm.IssuedNames
import RemoteHost.Proofs.Url.Parts
import RemoteHost.Proofs.Winrm.EndpointParts
import RemoteHost.Proofs.Ssh.ModeNumerals
import RemoteHost.Proofs.Ssh.WrappedMaterial
import RemoteHost.Proofs.Diagnostic
import RemoteHost.Proofs.Ssh.CommandFailure
import RemoteHost.Proofs.Ssh.HandedPassphrase
import RemoteHost.Proofs.Settings
import RemoteHost.Proofs.Ntlm.IndexedChallenge
import RemoteHost.Proofs.Winrm.DebugText
import RemoteHost.Proofs.Winrm.ResponsePlaces
import RemoteHost.Proofs.PowerShell.CommandLine
import RemoteHost.Proofs.Winrm.CarriedScripts
import RemoteHost.Proofs.Winrm.CommandLimit
import RemoteHost.Proofs.Ssh.ListedEntries
