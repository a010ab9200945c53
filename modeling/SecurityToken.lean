import SecurityToken.Crypto.Suite.Cache
import SecurityToken.Crypto.Suite.Fixed
import SecurityToken.Crypto.Suite.Layered
import SecurityToken.Description.Draft
import SecurityToken.Description.Key
import SecurityToken.Description.Policy
import SecurityToken.Handler.Creation
import SecurityToken.Proofs.Claim.Restoration
import SecurityToken.Proofs.Compact.Boundary
import SecurityToken.Proofs.Compact.Canonical
import SecurityToken.Proofs.Crypto.Authentication
import SecurityToken.Proofs.Handler.Encryption
import SecurityToken.Proofs.Handler.Precedence
import SecurityToken.Proofs.Replay.Claims
import SecurityToken.Proofs.Replay.Repetition
import SecurityToken.Proofs.Replay.Safety
import SecurityToken.Proofs.Replay.Sweeping
import SecurityToken.Proofs.Suite.Capability
import SecurityToken.Proofs.Validation.Authenticity
import SecurityToken.Proofs.Validation.Concealment
import SecurityToken.Proofs.Validation.Delegation
import SecurityToken.Proofs.Validation.Misconfiguration
import SecurityToken.Proofs.Validation.Nesting
import SecurityToken.Proofs.Validation.Order
import SecurityToken.Proofs.Validation.Preference
import SecurityToken.Proofs.Validation.Recursion
import SecurityToken.Proofs.Validation.Spelling
import SecurityToken.Report.Algorithm
import SecurityToken.Report.Call
import SecurityToken.Report.Description
import SecurityToken.Report.Validation
import SecurityToken.Validation.Basic
