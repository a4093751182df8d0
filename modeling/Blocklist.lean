import Blocklist.Machine
import Blocklist.Main
import Blocklist.Proofs.ValidConfig
import Blocklist.Proofs.IdNamespaces
import Blocklist.Proofs.UnchangedSources
import Blocklist.Proofs.RefreshIsolation
import Blocklist.Proofs.CustomFilterTables
import Blocklist.Proofs.WhitelistRules
import Blocklist.Proofs.EngineCalls
import Blocklist.Proofs.BlockerRuns
import Blocklist.Proofs.Consistency
import Blocklist.Proofs.EngineAgreement
import Blocklist.Proofs.Durability
import Blocklist.Proofs.Restart
import Blocklist.Proofs.RefusedChanges
import Blocklist.Proofs.SecondStart
import Blocklist.Proofs.Toggles
import Blocklist.Proofs.EnabledFlags
import Blocklist.Proofs.RulesetPaths
import Blocklist.Proofs.RuleRoundTrip
import Blocklist.Proofs.FirstOccurrences
import Blocklist.Proofs.ConfigText
import Blocklist.Proofs.ListStates
import Blocklist.Proofs.StoreFile
import Blocklist.Proofs.CommandFiles
import Blocklist.Proofs.SharedIds
import Blocklist.Proofs.DynamicIds
import Blocklist.Proofs.RefusedRules
import Blocklist.Proofs.CompiledFiles
import Blocklist.Proofs.ReplacedRules
import Blocklist.Proofs.Reconciling
import Blocklist.Proofs.Recompiling
import Blocklist.Proofs.OptionOrder
import Blocklist.Proofs.DomainLists
import Blocklist.Proofs.AnchorBars
import Blocklist.Proofs.EscapedPatterns
import Blocklist.Proofs.HostFilters
import Blocklist.Proofs.WhitelistLookup
import Blocklist.Proofs.SoundConfigs
import Blocklist.Proofs.AllocatorRuns
import Blocklist.Proofs.RestingIds
import Blocklist.Proofs.BoundedRetry
import Blocklist.Proofs.CanonicalWhitelists
